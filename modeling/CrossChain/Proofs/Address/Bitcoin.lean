import CrossChain.Node.Bitcoin.Address
import CrossChain.Proofs.Encoding.Base58
import CrossChain.Proofs.Encoding.Bech32

/-!
# Bitcoin addresses are read as they are written

The text of an address that was read denotes the address (`ofText?_text`): a hash is written with
the version and the checksum that it was read with, and a segwit program in lower case, which is the
case that its groups are written in.

No character of the base58 alphabet is white space (`isBlank_of_mem_alphabet`), so that the trimming
of the reader leaves what is written as it stands (`trim_encodeChecked`). For segwit programs this
is `Segwit.ofText?_text`.
-/

namespace CrossChain.Bitcoin.Account

theorem isBlank_of_mem_alphabet {c : Char} (h : c ∈ Base58.alphabet) : Text.isBlank c = false := by
  have hall : Base58.alphabet.all (fun c => !Text.isBlank c) = true := by decide
  simpa using List.all_eq_true.mp hall c h

theorem trim_encodeChecked (bs : List UInt8) :
    Text.trim (Base58.encodeChecked bs) = Base58.encodeChecked bs := by
  rw [← String.ofList_toList (s := Base58.encodeChecked bs)]
  exact Text.trim_ofList fun c hc => isBlank_of_mem_alphabet (Base58.mem_encode hc)

theorem ofText?_text {net : Net} {s : String} {a : Account} (h : ofText? net s = some a) :
    ofText? net a.text = some a := by
  simp only [ofText?] at h
  split at h
  · rename_i w hw
    split at h
    · rename_i hhrp
      cases h
      have htrim : Text.trim w.text = w.text := by
        rw [← String.ofList_toList (s := w.text)]
        exact Text.trim_ofList fun c hc => Segwit.isBlank_of_mem_text hw hc
      simp only [ofText?, text, htrim, Segwit.ofText?_text hw, if_pos hhrp]
    · cases h
  · rename_i hw
    split at h
    · cases h
    rename_i hshort
    split at h
    · rename_i mark body hdecode
      split at h
      · rename_i hguard
        cases h
        have htext : Base58.encodeChecked (mark :: body) = Text.trim s := by
          rw [Base58.encodeChecked_of_decodeChecked? hdecode, String.ofList_toList]
        simp only [ofText?, text, trim_encodeChecked]
        rw [htext, hw]
        simp only [if_neg hshort, hdecode, if_pos hguard]
      · cases h
    · cases h

end CrossChain.Bitcoin.Account
