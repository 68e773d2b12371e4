/-!
# Snapshots

A value that is replaced as a whole. Readers hold the generation they loaded; neither a later
`publish` nor a later `update` changes it.
-/

namespace CrossChain

/-- The cell of a value that is replaced as a whole. -/
structure Snapshot (α : Type) where
  current : α

namespace Snapshot

def load (s : Snapshot α) : α := s.current

def publish (_ : Snapshot α) (next : α) : Snapshot α := ⟨next⟩

def update (s : Snapshot α) (f : α → α) : Snapshot α := ⟨f s.current⟩

end Snapshot

end CrossChain
