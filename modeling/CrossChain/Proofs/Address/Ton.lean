import CrossChain.Node.Ton
import CrossChain.Proofs.Encoding.Base64
import CrossChain.Proofs.Text

/-!
# Friendly Ton addresses

The friendly form of an account is read as the account (`ofText?_text`), with its flags. The octets
that are written have the guard behind them that the reader checks (`ofOctets?_body`), and their
characters are neither blanks nor the colon of the raw form (`text_chars`), so that the reader takes
the text for a friendly one and leaves it as it stands.

Whatever is read has a hash of 32 octets (`length_hash`). This is what a friendly form needs to be
read back.
-/

namespace CrossChain.Ton.Account

theorem length_hash_of_ofOctets? {bs : List UInt8} {a : Account} (h : ofOctets? bs = some a) :
    a.hash.length = 32 := by
  unfold ofOctets? at h
  split at h
  · split at h
    · rename_i hbs
      cases h
      simp only [List.length_cons] at hbs
      simp only [List.length_take]
      omega
    · cases h
  · cases h

theorem length_hash_of_ofRaw? {workchain hash : List Char} {a : Account}
    (h : ofRaw? workchain hash = some a) : a.hash.length = 32 := by
  simp only [ofRaw?, Option.bind_eq_bind, Option.bind_eq_some_iff] at h
  obtain ⟨w, -, bs, -, h⟩ := h
  split at h
  · cases h
    assumption
  · cases h

theorem length_hash {s : String} {a : Account} (h : ofText? s = some a) : a.hash.length = 32 := by
  unfold ofText? at h
  simp only at h
  split at h
  · exact length_hash_of_ofRaw? h
  · split at h
    · obtain ⟨bs, -, hbs⟩ := Option.bind_eq_some_iff.mp h
      exact length_hash_of_ofOctets? hbs
    · cases h

theorem ofOctets?_body {a : Account} (h : a.hash.length = 32) :
    ofOctets? (a.body ++ guard a.body) = some a := by
  have hbody : a.body.length = 34 := by simp [body, h]
  have hguard : (guard a.body).length = 2 := rfl
  have htake : (a.body ++ guard a.body).take 34 = a.body := List.take_left' hbody
  have hdrop : (a.body ++ guard a.body).drop 34 = guard a.body := List.drop_left' hbody
  have hhash : (a.hash ++ guard a.body).take 32 = a.hash := List.take_left' h
  have hlength : (a.body ++ guard a.body).length = 36 := by
    rw [List.length_append, hbody, hguard]
  change (if (a.body ++ guard a.body).length = 36 ∧
      guard ((a.body ++ guard a.body).take 34) = (a.body ++ guard a.body).drop 34 then
    some ⟨a.flags, a.workchain.toUInt8.toInt8, (a.hash ++ guard a.body).take 32⟩ else none) = some a
  rw [hlength, htake, hdrop, hhash, if_pos ⟨rfl, rfl⟩]
  rfl

theorem text_chars {a : Account} {c : Char}
    (h : c ∈ Base64.urlSafe.encode (a.body ++ guard a.body)) :
    Text.isBlank c = false ∧ c ≠ ':' := by
  have hdigit : ∀ n < 64, Text.isBlank (Base64.urlSafe.digit n) = false ∧
      Base64.urlSafe.digit n ≠ ':' := by
    decide +kernel
  rcases Base64.mem_encode h with rfl | ⟨n, hn, rfl⟩
  · decide
  · exact hdigit n hn

/-- The friendly form of an account is read as the account. -/
theorem ofText?_text {a : Account} (h : a.hash.length = 32) : ofText? a.text = some a := by
  have hlength : (Base64.urlSafe.encode (a.body ++ guard a.body)).length = 48 := by
    rw [Base64.length_encode]
    simp [body, h, guard]
  have hcolon : (Base64.urlSafe.encode (a.body ++ guard a.body)).dropWhile (· != ':') = [] := by
    rw [← List.append_nil (Base64.urlSafe.encode _), List.dropWhile_append_of_pos]
    · rfl
    · intro c hc
      exact bne_iff_ne.mpr (text_chars hc).2
  unfold ofText?
  rw [text, Text.trim_ofList fun c hc => (text_chars hc).1, String.toList_ofList]
  simp only [hcolon, hlength, if_true, Base64.decode?_encode]
  exact ofOctets?_body h

end CrossChain.Ton.Account
