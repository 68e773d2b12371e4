import CrossChain.Alert.Markdown
import Mathlib.Algebra.Ring.Parity

/-!
# What a chat reads of an alert

A chat reads a message as characters of text and of markup (`Symbol`): a special character is markup
unless a backslash stands in front of it, which is taken away (`read`). Every special character of a
text is escaped (`reserved_of_special`), so that what is escaped is read as text, whatever stands
behind it (`read_escapeChars_append`), and escaping confuses no two texts (`escape_injective`).

An alert is a template with its texts in their places (`parts_eq`), and no markup of a template ends
with a backslash that would escape what stands behind it (`not_mem_template`,
`even_backslashes_rendered`). Main statement (`chatMessage_isRead`): of the message of an alert the
chat reads the template of its kind with the texts of the alert in their places, all of them as text
and as they were.
-/

namespace CrossChain.Alert

/-! ## Reading -/

/-- The characters that a chat takes for markup, and the one that escapes them. -/
def special : List Char := "_*[]()~\x60>#+-=|\x7b\x7d.!\\".toList

/-- A character of a message, as the chat reads it: one of text, which is shown as it is, or one of
markup. -/
inductive Symbol where
  | text (c : Char)
  | markup (c : Char)
  deriving DecidableEq, Repr

namespace Symbol

def char : Symbol → Char
  | text c | markup c => c

/-- A character that is not escaped. -/
def bare (c : Char) : Symbol := if c ∈ special then markup c else text c

end Symbol

/-- A backslash escapes the characters of ASCII, except the first and the last. -/
def isEscapable (c : Char) : Bool := 1 ≤ c.toNat && c.toNat ≤ 126

def read : List Char → List Symbol
  | [] => []
  | [c] => [.bare c]
  | c :: d :: rest =>
    if c = '\\' ∧ isEscapable d then .text d :: read rest else .bare c :: read (d :: rest)

/-- A text without the backslashes that escape. -/
def unescape (s : String) : String := String.ofList ((read s.toList).map Symbol.char)

variable {a : Alert} {c : Char} {cs rest : List Char}

/-- Whatever the chat would take for markup is escaped. -/
theorem reserved_of_special (h : c ∈ special) : c ∈ reserved := by
  have hall : special.all (reserved.contains ·) = true := by decide
  exact List.contains_iff_mem.mp (List.all_eq_true.mp hall c h)

theorem isEscapable_of_reserved (h : c ∈ reserved) : isEscapable c = true := by
  have hall : reserved.all isEscapable = true := by decide
  exact List.all_eq_true.mp hall c h

theorem ne_of_not_reserved (h : c ∉ reserved) : c ≠ '\\' := by
  rintro rfl
  exact h (by decide)

theorem read_cons_of_ne (h : c ≠ '\\') : read (c :: rest) = .bare c :: read rest := by
  cases rest with
  | nil => rfl
  | cons d rest => rw [read, if_neg fun hc => h hc.1]

theorem read_escaped (h : c ∈ reserved) : read ('\\' :: c :: rest) = .text c :: read rest := by
  rw [read, if_pos ⟨rfl, isEscapable_of_reserved h⟩]

/-- What is escaped is read as text, whatever stands behind it. -/
theorem read_escapeChars_append (cs rest : List Char) :
    read (escapeChars cs ++ rest) = cs.map .text ++ read rest := by
  induction cs with
  | nil => rfl
  | cons c cs ih =>
    rw [escapeChars]
    split
    next hc => rw [List.cons_append, List.cons_append, read_escaped hc, ih, List.map_cons,
      List.cons_append]
    next hc =>
      have htext : Symbol.bare c = .text c := if_neg fun h => hc (reserved_of_special h)
      rw [List.cons_append, read_cons_of_ne (ne_of_not_reserved hc), htext, ih, List.map_cons,
        List.cons_append]

theorem read_append_of_not_mem (h : '\\' ∉ cs) : read (cs ++ rest) = cs.map .bare ++ read rest := by
  induction cs with
  | nil => rfl
  | cons c cs ih =>
    obtain ⟨hc, hcs⟩ := List.ne_and_not_mem_of_not_mem_cons h
    rw [List.cons_append, read_cons_of_ne hc.symm, ih hcs, List.map_cons, List.cons_append]

theorem unescape_escape (s : String) : unescape (escape s) = s := by
  have hread : read (escapeChars s.toList) = s.toList.map .text := by
    simpa [read] using read_escapeChars_append s.toList []
  have hchars : Symbol.char ∘ Symbol.text = id := rfl
  rw [unescape, escape, String.toList_ofList, hread, List.map_map, hchars, List.map_id,
    String.ofList_toList]

theorem escape_injective : Function.Injective escape :=
  Function.LeftInverse.injective unescape_escape

/-! ## Templates -/

/-- The kinds of alerts. -/
inductive Kind where
  | queryFailed
  | rowSkipped
  | clientFailed
  | taskPanicked

/-- The markup of a message, in front of each text. -/
def Kind.template : Kind → List String
  | queryFailed => ["⚠️ *Reload Query Failed*\n\n📋 Table: " ++ tick, tick ++ "\n🚫 "]
  | rowSkipped =>
    ["⚠️ *Row Skipped*\n\n📋 Table: " ++ tick, tick ++ "\n🔑 Key: " ++ tick, tick ++ "\n🚫 "]
  | clientFailed => ["⚠️ *Chain Client Failed*\n\n⛓ Chain: " ++ tick, tick ++ "\n🚫 "]
  | taskPanicked => ["⚠️ *Task Panicked*\n\n⚙️ Task: " ++ tick, tick ++ "\n🚫 "]

def kind : Alert → Kind
  | .queryFailed .. => .queryFailed
  | .rowSkipped .. => .rowSkipped
  | .clientFailed .. => .clientFailed
  | .taskPanicked .. => .taskPanicked

/-- The texts of an alert, in the order of its message. -/
def texts : Alert → List String
  | .queryFailed table error => [table, error]
  | .rowSkipped table key reason => [table, key, reason]
  | .clientFailed chain error => [chain, error]
  | .taskPanicked task message => [task, message]

theorem parts_eq (a : Alert) :
    a.parts = (a.kind.template.zip a.texts).flatMap fun slot =>
      [.markup slot.1, .field slot.2] := by
  cases a <;> rfl

theorem not_mem_template (k : Kind) : ∀ m ∈ k.template, '\\' ∉ m.toList := by
  cases k <;> decide

/-- The markup of the part has no backslash in it, so that it does not escape what stands behind it.
-/
def Part.IsPlain : Part → Prop
  | markup m => '\\' ∉ m.toList
  | field _ => True

theorem isPlain_of_mem_parts {p : Part} (h : p ∈ a.parts) : p.IsPlain := by
  rw [parts_eq] at h
  obtain ⟨⟨m, t⟩, hslot, hp⟩ := List.mem_flatMap.mp h
  simp only [List.mem_cons, List.not_mem_nil, or_false] at hp
  obtain rfl | rfl := hp
  · exact not_mem_template a.kind m (List.of_mem_zip hslot).1
  · trivial

/-- A part as the chat is to read it. -/
def Part.symbols : Part → List Symbol
  | markup m => m.toList.map .bare
  | field t => t.toList.map .text

/-- The characters of parts one behind another. -/
def rendered (ps : List Part) : List Char := ps.flatMap fun p => p.render.toList

theorem toList_chatMessage (a : Alert) : a.chatMessage.toList = rendered a.parts := by
  rw [chatMessage, String.toList_join, List.flatMap_map, rendered]

theorem toList_render_field (t : String) : (Part.field t).render.toList = escapeChars t.toList :=
  String.toList_ofList

theorem read_render_append {p : Part} (h : p.IsPlain) (rest : List Char) :
    read (p.render.toList ++ rest) = p.symbols ++ read rest := by
  cases p with
  | markup m => exact read_append_of_not_mem h
  | field t => rw [toList_render_field, read_escapeChars_append, Part.symbols]

theorem read_rendered {ps : List Part} (h : ∀ p ∈ ps, p.IsPlain) :
    read (rendered ps) = ps.flatMap Part.symbols := by
  induction ps with
  | nil => rfl
  | cons p ps ih =>
    obtain ⟨hp, hps⟩ := List.forall_mem_cons.mp h
    rw [rendered, List.flatMap_cons, read_render_append hp, ← rendered, ih hps, List.flatMap_cons]

/-! ## Backslashes in front of a character -/

/-- The number of backslashes at the end of a text. -/
def backslashes (cs : List Char) : Nat := (cs.reverse.takeWhile (· = '\\')).length

theorem backslashes_append_singleton (cs : List Char) (c : Char) :
    backslashes (cs ++ [c]) = if c = '\\' then backslashes cs + 1 else 0 := by
  rw [backslashes, List.reverse_append, List.reverse_singleton, List.singleton_append,
    List.takeWhile_cons]
  by_cases h : c = '\\' <;> simp [h, backslashes]

theorem even_backslashes_of_ne (cs : List Char) (h : c ≠ '\\') :
    Even (backslashes (cs ++ [c])) := by
  rw [backslashes_append_singleton, if_neg h]
  exact Even.zero

/-- A reserved character and the backslash in front of it leave an even number behind, whether it is
a backslash itself or not. -/
theorem even_backslashes_escaped (h : Even (backslashes cs)) (c : Char) :
    Even (backslashes (cs ++ ['\\', c])) := by
  have hsplit : cs ++ ['\\', c] = (cs ++ ['\\']) ++ [c] := by simp
  rw [hsplit]
  by_cases hc : c = '\\'
  · rw [backslashes_append_singleton, if_pos hc, backslashes_append_singleton, if_pos rfl]
    exact h.add even_two
  · exact even_backslashes_of_ne _ hc

theorem even_backslashes_escapeChars (h : Even (backslashes cs)) (text : List Char) :
    Even (backslashes (cs ++ escapeChars text)) := by
  induction text generalizing cs with
  | nil => rwa [escapeChars, List.append_nil]
  | cons c text ih =>
    rw [escapeChars]
    split
    next =>
      have hrest := ih (even_backslashes_escaped h c)
      rwa [List.append_assoc] at hrest
    next hc =>
      have hrest := ih (even_backslashes_of_ne cs (ne_of_not_reserved hc))
      rwa [List.append_assoc] at hrest

theorem even_backslashes_markup (h : Even (backslashes cs)) {m : List Char} (hm : '\\' ∉ m) :
    Even (backslashes (cs ++ m)) := by
  induction m generalizing cs with
  | nil => rwa [List.append_nil]
  | cons c m ih =>
    obtain ⟨hc, hm⟩ := List.ne_and_not_mem_of_not_mem_cons hm
    have hrest := ih (even_backslashes_of_ne cs hc.symm) hm
    rwa [List.append_assoc] at hrest

/-- No part ends with a backslash that escapes what stands behind the part. -/
theorem even_backslashes_rendered {ps : List Part} (hps : ∀ p ∈ ps, p.IsPlain)
    (h : Even (backslashes cs)) :
    Even (backslashes (cs ++ rendered ps)) := by
  induction ps generalizing cs with
  | nil => rwa [rendered, List.flatMap_nil, List.append_nil]
  | cons p ps ih =>
    obtain ⟨hp, hps⟩ := List.forall_mem_cons.mp hps
    have hrender : Even (backslashes (cs ++ p.render.toList)) := by
      cases p with
      | markup m => exact even_backslashes_markup h hp
      | field t =>
        rw [toList_render_field]
        exact even_backslashes_escapeChars h t.toList
    rw [rendered, List.flatMap_cons, ← List.append_assoc]
    exact ih hps hrender

theorem escapeChars_append (cs ds : List Char) :
    escapeChars (cs ++ ds) = escapeChars cs ++ escapeChars ds := by
  induction cs with
  | nil => rfl
  | cons c cs ih =>
    rw [List.cons_append, escapeChars, escapeChars, ih]
    split <;> rfl

/-! ## Messages -/

/-- An odd number of backslashes stands in front of every special character that comes from a text
of an alert, wherever it is; so the chat reads the template of the alert's kind and in its places
the texts, which escaping does not confuse and from which its backslashes can be taken away. -/
theorem chatMessage_isRead (a : Alert) :
    (∀ front t back before c after, a.parts = front ++ .field t :: back →
      t.toList = before ++ c :: after → c ∈ special →
      ∃ shown, a.chatMessage.toList = shown ++ c :: (escapeChars after ++ rendered back) ∧
        Odd (backslashes shown)) ∧
    read a.chatMessage.toList = (a.kind.template.zip a.texts).flatMap (fun slot =>
      slot.1.toList.map .bare ++ slot.2.toList.map .text) ∧
    Function.Injective escape ∧ ∀ s, unescape (escape s) = s := by
  refine ⟨fun front t back before c after hparts ht hc => ?_, ?_, escape_injective, unescape_escape⟩
  · have hfront : ∀ p ∈ front, p.IsPlain := fun p hp =>
      isPlain_of_mem_parts (hparts ▸ List.mem_append_left _ hp)
    have hrendered : Even (backslashes ([] ++ rendered front)) :=
      even_backslashes_rendered hfront Even.zero
    have hshown : Even (backslashes (rendered front ++ escapeChars before)) :=
      even_backslashes_escapeChars hrendered before
    refine ⟨rendered front ++ escapeChars before ++ ['\\'], ?_, ?_⟩
    · have hfield :
          (Part.field t).render.toList = escapeChars before ++ '\\' :: c :: escapeChars after := by
        rw [toList_render_field, ht, escapeChars_append, escapeChars,
          if_pos (reserved_of_special hc)]
      rw [toList_chatMessage, hparts, rendered, List.flatMap_append, List.flatMap_cons, hfield]
      simp [rendered]
    · rw [backslashes_append_singleton, if_pos rfl]
      exact hshown.add_one
  · rw [toList_chatMessage, read_rendered fun p => isPlain_of_mem_parts, parts_eq,
      List.flatMap_assoc]
    simp [Part.symbols]

/-- A mark in the first text of an alert, the second of which is a backslash. -/
theorem chatMessage_isRead_sample :
    let a := taskPanicked "a_b" "\\"
    let front : List Part := [.markup ("⚠️ *Task Panicked*\n\n⚙️ Task: " ++ tick)]
    let behind : List Part := [.markup (tick ++ "\n🚫 "), .field "\\"]
    a.parts = front ++ .field "a_b" :: behind ∧ '_' ∈ special ∧
      ∃ shown, a.chatMessage.toList = shown ++ '_' :: 'b' :: rendered behind ∧
        Odd (backslashes shown) := by
  intro a front behind
  have hparts : a.parts = front ++ .field "a_b" :: behind := rfl
  have hmark : '_' ∈ special := by decide
  exact ⟨hparts, hmark,
    (chatMessage_isRead a).1 front "a_b" behind ['a'] '_' ['b'] hparts rfl hmark⟩

end CrossChain.Alert
