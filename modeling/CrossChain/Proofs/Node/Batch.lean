import CrossChain.Proofs.Session
import Mathlib.Data.List.Forall2
import Mathlib.Data.List.Induction

/-!
# Replies of a batch

The calls of a batch have the numbers from one on as their ids. A reply is taken for the one call
that it answers, or the batch fails (`slot?_eq_some`, `fill_eq_ok`). The slots that replies fill
hold the result of the last reply to each call (`Filled`), which one more reply keeps so
(`Filled.concat`).

A batch succeeds exactly when each reply answers a call of it and each call has a reply
(`Completes`), and its results are those of the last reply to each call, in the order of the calls
(`readBatch_eq_ok`). Where the replies have ids of their own their order does not matter
(`readBatch_of_perm`).

Main statement (`run_batch_matchesById`): this is what a session makes of the reply to its one
request.
-/

namespace CrossChain

theorem Json.nat64?_field_eq_some {j : Json} {key : String} {n : Nat} :
    (j.field key).nat64? = some n ↔ j.get? key = some (.int n) := by
  unfold field
  cases j.get? key with
  | none => simp [nat64?]
  | some v =>
    cases v with
    | int z =>
      simp only [Option.getD_some, nat64?, Option.some.injEq, int.injEq]
      split
      · rw [Option.some.injEq]
        omega
      · refine iff_of_false (by simp) ?_
        omega
    | _ => simp [nat64?]

namespace JsonRpc

/-- A reply answers the call of an id: it has a result, and an error that is null if it has one at
all. -/
structure Answers (id : Nat) (reply result : Json) : Prop where
  id : reply.get? "id" = some (.int id)
  error : reply.get? "error" = none ∨ reply.get? "error" = some .null
  result : reply.get? "result" = some result

theorem slot?_eq_some {n i : Nat} {reply : Json} :
    slot? n reply = some i ↔ i < n ∧ reply.get? "id" = some (.int (i + 1 : Nat)) := by
  rw [slot?, Option.bind_eq_bind, Option.bind_eq_some_iff]
  simp only [Json.nat64?_field_eq_some]
  constructor
  · rintro ⟨id, hid, h⟩
    split at h
    · cases h
      rw [Nat.sub_add_cancel (by omega)]
      exact ⟨by omega, hid⟩
    · cases h
  · rintro ⟨hi, hid⟩
    exact ⟨i + 1, hid, if_pos (by omega)⟩

/-- A reply is taken for one call that it answers, or not at all. -/
theorem fill_eq_ok {methods : List String} {slots filled : List (Option Json)} {reply : Json} :
    fill methods slots reply = .ok filled ↔
      ∃ i r, i < methods.length ∧ Answers (i + 1) reply r ∧ slots.set i (some r) = filled := by
  unfold fill
  constructor
  · intro h
    split at h
    · cases h
    · rename_i i hi
      obtain ⟨hlt, hid⟩ := slot?_eq_some.mp hi
      obtain ⟨r, hr, hset⟩ := except_map_eq_ok.mp h
      obtain ⟨herror, hresult⟩ := resultOf_eq_ok_iff.mp hr
      exact ⟨i, r, hlt, ⟨hid, herror, hresult⟩, hset⟩
  · rintro ⟨i, r, hlt, ⟨hid, herror, hresult⟩, rfl⟩
    rw [slot?_eq_some.mpr ⟨hlt, hid⟩]
    exact except_map_eq_ok.mpr ⟨r, resultOf_eq_ok_iff.mpr ⟨herror, hresult⟩, rfl⟩

/-! ## The last reply to a call -/

/-- The last reply with an id gives a result. Earlier replies with the same id may say something
else. -/
def LastAnswer (id : Nat) (replies : List Json) (result : Json) : Prop :=
  ∃ before reply behind, replies = before ++ reply :: behind ∧ Answers id reply result ∧
    ∀ later ∈ behind, later.get? "id" ≠ some (.int id)

variable {id n : Nat} {replies : List Json} {reply r : Json}

/-- One more reply is the last with its id, and for other ids nothing changes. -/
theorem lastAnswer_concat : LastAnswer id (replies ++ [reply]) r ↔
    Answers id reply r ∨ reply.get? "id" ≠ some (.int id) ∧ LastAnswer id replies r := by
  constructor
  · rintro ⟨before, found, behind, hsplit, hfound, hbehind⟩
    obtain rfl | ⟨behind, later, rfl⟩ := List.eq_nil_or_concat behind
    · obtain ⟨-, hlast⟩ := List.append_inj' hsplit rfl
      cases hlast
      exact .inl hfound
    · rw [List.concat_eq_append, ← List.cons_append, ← List.append_assoc] at hsplit
      obtain ⟨hfront, hlast⟩ := List.append_inj' hsplit rfl
      cases hlast
      refine .inr ⟨hbehind reply (by simp), before, found, behind, hfront, hfound,
        fun later hlater => ?_⟩
      exact hbehind later (by simp [hlater])
  · rintro (hreply | ⟨hother, before, found, behind, rfl, hfound, hbehind⟩)
    · exact ⟨replies, reply, [], rfl, hreply, fun later hlater => by cases hlater⟩
    · refine ⟨before, found, behind ++ [reply], by simp, hfound, fun later hlater => ?_⟩
      rcases List.mem_append.mp hlater with hlater | hlater
      · exact hbehind later hlater
      · rwa [List.mem_singleton.mp hlater]

/-- Among replies with ids of their own any reply is the last with its id. -/
theorem lastAnswer_iff_mem (h : replies.Pairwise fun a b => a.get? "id" ≠ b.get? "id") :
    LastAnswer id replies r ↔ ∃ reply ∈ replies, Answers id reply r := by
  constructor
  · rintro ⟨before, reply, behind, rfl, hreply, -⟩
    exact ⟨reply, by simp, hreply⟩
  · rintro ⟨reply, hmem, hreply⟩
    obtain ⟨before, behind, rfl⟩ := List.append_of_mem hmem
    obtain ⟨-, hbehind, -⟩ := List.pairwise_append.mp h
    refine ⟨before, reply, behind, rfl, hreply, fun later hlater heq => ?_⟩
    exact (List.pairwise_cons.mp hbehind).1 later hlater (hreply.id.trans heq.symm)

/-! ## Slots that replies fill -/

/-- The replies each answer a call, and each slot holds the result of the last reply to its call, if
there is one. -/
structure Filled (n : Nat) (replies : List Json) (slots : List (Option Json)) : Prop where
  known : ∀ reply ∈ replies, ∃ i r, i < n ∧ Answers (i + 1) reply r
  length : slots.length = n
  slot : ∀ i < n, ∀ r, slots[i]? = some (some r) ↔ LastAnswer (i + 1) replies r

theorem filled_nil (methods : List String) :
    Filled methods.length [] (methods.map fun _ => none) where
  known reply h := by cases h
  length := List.length_map _
  slot i hi r := by
    refine iff_of_false (by simp [hi]) ?_
    rintro ⟨before, reply, behind, hsplit, -⟩
    simp at hsplit

/-- One more reply overwrites the slot of its call and no other. -/
theorem Filled.concat {slots : List (Option Json)} {i : Nat} (h : Filled n replies slots)
    (hi : i < n)
    (hreply : Answers (i + 1) reply r) : Filled n (replies ++ [reply]) (slots.set i (some r)) where
  known reply' hmem := by
    rcases List.mem_append.mp hmem with hmem | hmem
    · exact h.known reply' hmem
    · rw [List.mem_singleton.mp hmem]
      exact ⟨i, r, hi, hreply⟩
  length := by rw [List.length_set, h.length]
  slot j hj r' := by
    rw [lastAnswer_concat]
    by_cases hij : i = j
    · subst hij
      rw [or_iff_left fun h => h.1 hreply.id, List.getElem?_set_self (h.length.symm ▸ hi)]
      constructor
      · intro hr
        cases hr
        exact hreply
      · intro hr
        rw [Option.some.inj (hreply.result.symm.trans hr.result)]
    · have hother : reply.get? "id" ≠ some (.int (j + 1 : Nat)) := by
        rw [hreply.id, Ne, Option.some.injEq, Json.int.injEq]
        omega
      rw [or_iff_right fun h => hother h.id, and_iff_right hother, List.getElem?_set_ne hij,
        h.slot j hj r']

theorem filled_of_foldlM {methods : List String} {slots : List (Option Json)}
    (h : replies.foldlM (fill methods) (methods.map fun _ => none) = .ok slots) :
    Filled methods.length replies slots := by
  induction replies using List.reverseRecOn generalizing slots with
  | nil =>
    cases h
    exact filled_nil methods
  | append_singleton replies reply ih =>
    rw [List.foldlM_append] at h
    obtain ⟨before, hbefore, h⟩ := except_bind_eq_ok.mp h
    obtain ⟨slots', hfill, h⟩ := except_bind_eq_ok.mp h
    cases h
    obtain ⟨i, r, hi, hreply, rfl⟩ := fill_eq_ok.mp hfill
    exact (ih hbefore).concat hi hreply

theorem exists_foldlM {methods : List String}
    (h : ∀ reply ∈ replies, ∃ i r, i < methods.length ∧ Answers (i + 1) reply r)
    (slots : List (Option Json)) : ∃ filled, replies.foldlM (fill methods) slots = .ok filled := by
  induction replies generalizing slots with
  | nil => exact ⟨slots, rfl⟩
  | cons reply rest ih =>
    obtain ⟨i, r, hi, hreply⟩ := h reply List.mem_cons_self
    have hfill : fill methods slots reply = .ok (slots.set i (some r)) :=
      fill_eq_ok.mpr ⟨i, r, hi, hreply, rfl⟩
    obtain ⟨filled, hfilled⟩ :=
      ih (fun reply hmem => h reply (List.mem_cons_of_mem _ hmem)) (slots.set i (some r))
    exact ⟨filled, except_bind_eq_ok.mpr ⟨_, hfill, hfilled⟩⟩

theorem collect_eq_ok {methods : List String} {slots : List (Option Json)} {rs : List Json}
    (h : slots.length = methods.length) : collect methods slots = .ok rs ↔ slots = rs.map some := by
  induction methods generalizing slots rs with
  | nil =>
    rw [List.length_nil, List.length_eq_zero_iff] at h
    subst h
    cases rs <;> simp [collect]
  | cons m rest ih =>
    cases slots with
    | nil => cases h
    | cons slot slots =>
      have hlength : slots.length = rest.length := Nat.succ.inj h
      cases slot with
      | none => cases rs <;> simp [collect]
      | some r =>
        rw [collect, except_map_eq_ok]
        simp only [ih hlength]
        cases rs with
        | nil => simp
        | cons r' rs =>
          constructor
          · rintro ⟨tail, rfl, htail⟩
            cases htail
            rfl
          · intro hslots
            obtain ⟨hr, hrest⟩ := List.cons.inj hslots
            cases hr
            exact ⟨rs, hrest, rfl⟩

/-! ## Results in the order of the calls -/

/-- Every reply answers one of `n` calls, with a result and without an error, and every call has a
reply. -/
structure Completes (n : Nat) (replies : List Json) : Prop where
  known : ∀ reply ∈ replies, ∃ id result, 1 ≤ id ∧ id ≤ n ∧ Answers id reply result
  every : ∀ id, 1 ≤ id → id ≤ n → ∃ reply ∈ replies, reply.get? "id" = some (.int id)

/-- The results of the last replies to `n` calls, one for each call and in the order of the calls.
-/
structure Collects (n : Nat) (replies rs : List Json) : Prop where
  length : rs.length = n
  result : ∀ i r, rs[i]? = some r → LastAnswer (i + 1) replies r

theorem readBatch_eq_ok {methods : List String} {rs : List Json} :
    readBatch methods (.list replies) = .ok rs ↔
    Completes methods.length replies ∧ Collects methods.length replies rs := by
  rw [readBatch, except_bind_eq_ok]
  constructor
  -- The slots that the replies fill are the link: collecting them gives the results, and a slot is
  -- filled exactly where its call has a last reply.
  · rintro ⟨slots, hslots, hcollect⟩
    have hfilled := filled_of_foldlM hslots
    rw [collect_eq_ok hfilled.length] at hcollect
    subst hcollect
    have hlength : rs.length = methods.length := by simpa using hfilled.length
    have hlast (i : Nat) (r : Json) (hr : rs[i]? = some r) : LastAnswer (i + 1) replies r := by
      obtain ⟨hi, -⟩ := List.getElem?_eq_some_iff.mp hr
      exact (hfilled.slot i (hlength ▸ hi) r).mp (by simp [hr])
    refine ⟨⟨fun reply hreply => ?_, fun id hlow hhigh => ?_⟩, hlength, hlast⟩
    · obtain ⟨i, r, hi, hanswers⟩ := hfilled.known reply hreply
      exact ⟨i + 1, r, by omega, by omega, hanswers⟩
    · have hi : id - 1 < rs.length := by omega
      obtain ⟨before, reply, behind, rfl, hreply, -⟩ :=
        hlast (id - 1) _ (List.getElem?_eq_getElem hi)
      rw [Nat.sub_add_cancel hlow] at hreply
      exact ⟨reply, by simp, hreply.id⟩
  · rintro ⟨hcompletes, hcollects⟩
    have hknown : ∀ reply ∈ replies, ∃ i r, i < methods.length ∧ Answers (i + 1) reply r := by
      intro reply hreply
      obtain ⟨id, r, hlow, hhigh, hanswers⟩ := hcompletes.known reply hreply
      refine ⟨id - 1, r, by omega, ?_⟩
      rwa [Nat.sub_add_cancel hlow]
    obtain ⟨slots, hslots⟩ := exists_foldlM hknown (methods.map fun _ => none)
    have hfilled := filled_of_foldlM hslots
    refine ⟨slots, hslots, (collect_eq_ok hfilled.length).mpr ?_⟩
    refine List.ext_getElem? fun i => ?_
    by_cases hi : i < methods.length
    · have hr := List.getElem?_eq_getElem (hcollects.length.symm ▸ hi : i < rs.length)
      rw [(hfilled.slot i hi _).mpr (hcollects.result i _ hr), List.getElem?_map, hr]
      rfl
    · rw [List.getElem?_eq_none (by rw [hfilled.length]; omega),
        List.getElem?_eq_none (by rw [List.length_map, hcollects.length]; omega)]

/-- The results of replies with ids of their own do not depend on their order. -/
theorem readBatch_of_perm {methods : List String} {replies' rs : List Json}
    (hperm : replies.Perm replies') (hids : replies.Pairwise fun a b => a.get? "id" ≠ b.get? "id")
    (h : readBatch methods (.list replies) = .ok rs) :
    readBatch methods (.list replies') = .ok rs := by
  obtain ⟨hcompletes, hcollects⟩ := readBatch_eq_ok.mp h
  have hids' := (hperm.pairwise_iff fun hne => hne.symm).mp hids
  refine readBatch_eq_ok.mpr ⟨⟨fun reply hreply => ?_, fun id hlow hhigh => ?_⟩, hcollects.length,
    fun i r hr => ?_⟩
  · exact hcompletes.known reply (hperm.mem_iff.mpr hreply)
  · obtain ⟨reply, hreply, hid⟩ := hcompletes.every id hlow hhigh
    exact ⟨reply, hperm.mem_iff.mp hreply, hid⟩
  · obtain ⟨reply, hreply, hanswers⟩ := (lastAnswer_iff_mem hids).mp (hcollects.result i r hr)
    exact (lastAnswer_iff_mem hids').mpr ⟨reply, hperm.mem_iff.mp hreply, hanswers⟩

/-- Replies that answer the calls one each, in whatever order they come, give the results of the
calls. -/
theorem readBatch_of_answers {methods : List String} {answers rs : List Json}
    (hmethods : methods.length = rs.length)
    (hanswers : List.Forall₂ (fun reply result => Answers (result.2 + 1) reply result.1) answers
      rs.zipIdx)
    (hperm : replies.Perm answers) : readBatch methods (.list replies) = .ok rs := by
  have hlength : answers.length = rs.length := by rw [hanswers.length_eq, List.length_zipIdx]
  have hanswer (i : Nat) (hi : i < answers.length) :
      Answers (i + 1) answers[i] (rs.get ⟨i, hlength ▸ hi⟩) := by
    have hget := (List.forall₂_iff_get.mp hanswers).2 i hi (by rwa [List.length_zipIdx, ← hlength])
    simpa using hget
  have hids : answers.Pairwise fun a b => a.get? "id" ≠ b.get? "id" := by
    rw [List.pairwise_iff_getElem]
    intro i j hi hj hij
    rw [(hanswer i hi).id, (hanswer j hj).id, Ne, Option.some.injEq, Json.int.injEq]
    omega
  refine readBatch_of_perm hperm.symm hids
    (readBatch_eq_ok.mpr ⟨⟨fun reply hreply => ?_, fun id hlow hhigh => ?_⟩,
    hmethods.symm, fun i r hr => ?_⟩)
  · obtain ⟨i, hi, rfl⟩ := List.getElem_of_mem hreply
    exact ⟨i + 1, _, by omega, by omega, hanswer i hi⟩
  · have hi : id - 1 < answers.length := by omega
    have hid := (hanswer (id - 1) hi).id
    rw [Nat.sub_add_cancel hlow] at hid
    exact ⟨_, List.getElem_mem hi, hid⟩
  · obtain ⟨hi, rfl⟩ := List.getElem?_eq_some_iff.mp hr
    exact (lastAnswer_iff_mem hids).mpr ⟨_, List.getElem_mem (hlength ▸ hi),
      hanswer i (hlength ▸ hi)⟩

/-- What a batch of `n` calls makes of a reply. It succeeds exactly when the reply is a list of
replies that answer all the calls and nothing else, whose order does not matter where their ids
differ. -/
structure MatchesById (n : Nat) (outcome : Json → Except Error (List Json)) : Prop where
  ok_iff : ∀ reply rs,
    outcome reply = .ok rs ↔ ∃ replies, reply = .list replies ∧ Completes n replies ∧
      Collects n replies rs
  reordered : ∀ replies replies' rs, replies.Perm replies' →
    replies.Pairwise (fun a b => a.get? "id" ≠ b.get? "id") →
    (outcome (.list replies) = .ok rs ↔ outcome (.list replies') = .ok rs)
  failed : ∀ replies, (∃ reply ∈ replies, ∃ e, reply.get? "error" = some e ∧ e ≠ .null) →
    (outcome (.list replies)).isOk = false
  unknown : ∀ replies, (∃ reply ∈ replies, ∀ id : Nat, 1 ≤ id → id ≤ n →
    reply.get? "id" ≠ some (.int id)) →
    (outcome (.list replies)).isOk = false
  missing : ∀ replies, (∃ id : Nat, 1 ≤ id ∧ id ≤ n ∧
    ∀ reply ∈ replies, reply.get? "id" ≠ some (.int id)) →
    (outcome (.list replies)).isOk = false

theorem not_isOk_of_not_completes {methods : List String} (h : ¬ Completes methods.length replies) :
    (readBatch methods (.list replies)).isOk = false := by
  cases hr : readBatch methods (.list replies) with
  | ok rs => exact absurd (readBatch_eq_ok.mp hr).1 h
  | error e => rfl

theorem matchesById_readBatch (methods : List String) :
    MatchesById methods.length (readBatch methods) where
  ok_iff reply rs := by
    cases reply with
    | list replies =>
      rw [readBatch_eq_ok]
      constructor
      · exact fun h => ⟨replies, rfl, h⟩
      · rintro ⟨_, hreplies, h⟩
        cases hreplies
        exact h
    | _ =>
      refine iff_of_false (fun h => ?_) ?_
      · cases h
      · rintro ⟨replies, hreplies, -⟩
        cases hreplies
  reordered replies replies' rs hperm hids :=
    ⟨readBatch_of_perm hperm hids,
      readBatch_of_perm hperm.symm ((hperm.pairwise_iff fun hne => hne.symm).mp hids)⟩
  failed replies := by
    rintro ⟨reply, hreply, e, he, hnull⟩
    refine not_isOk_of_not_completes fun h => ?_
    obtain ⟨id, r, -, -, hanswers⟩ := h.known reply hreply
    rcases hanswers.error with herror | herror
    · rw [he] at herror
      cases herror
    · rw [he] at herror
      exact hnull (Option.some.inj herror)
  unknown replies := by
    rintro ⟨reply, hreply, hid⟩
    refine not_isOk_of_not_completes fun h => ?_
    obtain ⟨id, r, hlow, hhigh, hanswers⟩ := h.known reply hreply
    exact hid id hlow hhigh hanswers.id
  missing replies := by
    rintro ⟨id, hlow, hhigh, hmissing⟩
    refine not_isOk_of_not_completes fun h => ?_
    obtain ⟨reply, hreply, hid⟩ := h.every id hlow hhigh
    exact hmissing reply hreply hid

/-- One batch sends one request and reads its reply. -/
theorem run_batch {τ : Type} {net : Network τ} {c : TokenCache} {s : τ} (t : Transport)
    (calls : List (String × Json)) : Session.run net (batch t calls) c s =
      ((net.send t (.post "" (batchBody calls)) s).1 >>= readBatch (calls.map (·.1)), c,
        (net.send t (.post "" (batchBody calls)) s).2) :=
  Session.run_read (Session.ask t _) _

/-- Every batch, of whatever calls, matches the reply to its one request by ids, and fails where the
network does. -/
theorem run_batch_matchesById (t : Transport) (calls : List (String × Json)) :
    ∃ outcome, MatchesById calls.length outcome ∧
      ∀ (τ : Type) (net : Network τ) (c : TokenCache) (s : τ), Session.run net (batch t calls) c s =
        ((net.send t (.post "" (batchBody calls)) s).1 >>= outcome, c,
          (net.send t (.post "" (batchBody calls)) s).2) := by
  have hmatches := matchesById_readBatch (calls.map (·.1))
  rw [List.length_map] at hmatches
  exact ⟨_, hmatches, fun τ net c s => run_batch t calls⟩

end JsonRpc

end CrossChain
