import CrossChain.Proofs.Node.Pool
import CrossChain.Proofs.Node.Quiet
import CrossChain.Proofs.Text

/-!
# The least that makes a token

A token needs a symbol and a positive number of decimals (`Minimum`). What the replies of each
family establish of them is read here (`established?`), apart from everything else that the family
does with them: it may be the least that makes a token, or that there is none, or nothing where a
reply cannot be read.

Each family has a lemma `meets_tokenInfo` on what becomes of a query that has heard replies
(`Fetched`). Every family but Solana answers that there is no such token if the replies establish
less than a token (`Fetched.notFound`), and what is fetched may be kept (`Fetched.meets_keep`).
Solana takes any mint for a token and keeps it (`Solana.tokenOf_of_mint`).
-/

namespace CrossChain

/-- What makes a token, as replies establish it: its symbol and its decimals. A token has more, but
may lack all else. -/
structure Minimum where
  symbol : String
  decimals : Int
  deriving DecidableEq

def Minimum.isUsable (m : Minimum) : Bool := !Text.isBlankText m.symbol && decide (0 < m.decimals)

def Token.minimum (t : Token) : Minimum := ⟨t.name, t.decimals⟩

/-- The token has a symbol that is not blank and a positive number of decimals. -/
def Token.IsUsable (t : Token) : Prop := t.minimum.isUsable = true

theorem Minimum.isUsable_iff {m : Minimum} :
    m.isUsable = true ↔ Text.isBlankText m.symbol = false ∧ 0 < m.decimals := by
  simp [isUsable]

/-! ## What replies establish -/

/-- What the answers of a contract say, nothing if it is none of a token. -/
def Evm.minimumOf (symbol decimals : List UInt8) : Except Error (Option Minimum) := do
  if symbol.isEmpty || decimals.isEmpty then return none
  let decimals ← uint "decimals" decimals
  let symbol ← text "symbol" symbol
  return some ⟨symbol, decimals.toNat⟩

/-- The answers of a contract in the reply to a batch. -/
def Evm.answersOf (reply : Json) : Except Error (List (List UInt8)) :=
  JsonRpc.readBatch (metadataCalls.map fun _ => "eth_call") reply >>= readAnswers

def Evm.minimum? (reply : Json) : Option (Option Minimum) :=
  (answersOf reply >>= fun answers => minimumOf (answers.getD 0 []) (answers.getD 1 [])).toOption

/-- The data of the account that a reply describes. -/
def Solana.dataOf (reply : Json) : Except Error (Option (List UInt8)) :=
  JsonRpc.resultOf "getAccountInfo" reply >>= fun v =>
    accountData "getAccountInfo" (v.field "value")

/-- What a mint says, with the names in its extensions or else those found. -/
def Solana.minimumOf (names : Metadata) (data : List UInt8) (mint : Mint) : Minimum :=
  ⟨clean ((mintMetadata? data).getD names).symbol, mint.decimals⟩

/-- What the replies for the metadata and for the mint say. -/
def Solana.minimum? (names mint : Json) : Option (Option Minimum) := do
  let names ← (dataOf names >>= accountNames).toOption
  match ← (dataOf mint).toOption with
  | none => some none
  | some data => (mint? data).map fun mint => some (minimumOf names data mint)

def Sui.minimum? (reply : Json) : Option (Option Minimum) := do
  let found ← optionalMetadata? (← (JsonRpc.resultOf "suix_getCoinMetadata" reply).toOption)
  return found.map fun m => ⟨m.symbol, m.decimals⟩

def ZksyncLite.minimum? (reply : Json) : Option (Option Minimum) := do
  let v ← (resultOf "" reply).toOption
  if v.isNull then some none else
    (metadata? v).map fun (symbol, decimals) => some ⟨symbol, decimals⟩

/-- What the replies that a query for metadata has heard establish: what makes the token, or that
there is none. Replies that cannot be read or are not complete establish nothing. -/
def established? (b : Backend) (heard : List Reply) : Option (Option Minimum) :=
  match b, heard with
  | .evm, [.ok reply] => Evm.minimum? reply
  | .solana, [.ok names, .ok mint] => Solana.minimum? names mint
  | .sui, .ok reply :: _ => Sui.minimum? reply
  | .zksyncLite, [.ok reply] => ZksyncLite.minimum? reply
  | _, _ => none

@[simp]
theorem established?_nil (b : Backend) : established? b [] = none := by
  cases b <;> rfl

/-- The result is that the chain has no such token, in whatever context of errors and whichever
spelling of the token is named. -/
def NotFound (chain : Chain) {α : Type} (r : Except Error α) : Prop :=
  ∃ e address, r = .error e ∧ e.root = .node (.tokenNotFound chain.name address)

/-- What becomes of a query for metadata that has heard replies, by what they establish: a token, a
refusal, or an error. -/
structure Fetched (b : Backend) (chain : Chain) (heard : List Reply)
    (r : Except Error Token) : Prop where
  usable : ∀ t, r = .ok t → t.IsUsable ∨ b = .solana ∧ established? b heard = some (some t.minimum)
  missing : established? b heard = some none → NotFound chain r
  lacking : ∀ m, established? b heard = some (some m) → m.isUsable = false →
    if b = .solana then ∃ t, r = .ok t ∧ t.minimum = m else NotFound chain r

/-- What becomes of one whose answer the cache may have, with tokens of which `R` holds. -/
def Answered (R : Token → Prop) (b : Backend) (chain : Chain) (heard : List Reply)
    (r : Except Error Token) : Prop :=
  (heard = [] ∧ ∃ t, r = .ok t ∧ R t) ∨ Fetched b chain heard r

/-- When a token is kept: it is usable, or all that is left for Solana is to return it. -/
def Kept (b : Backend) (heard : List Reply) (t : Token) (next : Session Token) : Prop :=
  t.IsUsable ∨ b = .solana ∧ established? b heard = some (some t.minimum) ∧ next = .done (.ok t)

variable {b : Backend} {chain : Chain} {heard : List Reply} {R : Token → Prop}

theorem Fetched.unread {r : Except Error Token} (h : established? b heard = none)
    (hr : ∀ t, r = .ok t → t.IsUsable) : Fetched b chain heard r where
  usable t ht := .inl (hr t ht)
  missing hm := by
    rw [h] at hm
    cases hm
  lacking m hm := by
    rw [h] at hm
    cases hm

theorem Fetched.error {e : Error} (h : established? b heard = none) :
    Fetched b chain heard (.error e) :=
  .unread h fun t ht => by cases ht

theorem Fetched.notFound {r : Except Error Token}
    (hb : established? b heard = some none ∨ b ≠ .solana) (h : NotFound chain r) :
    Fetched b chain heard r where
  usable t ht := by
    obtain ⟨e, -, hr, -⟩ := h
    rw [hr] at ht
    cases ht
  missing _ := h
  lacking m hm _ := by
    rcases hb with hb | hb
    · rw [hb] at hm
      cases hm
    · rw [if_neg hb]
      exact h

theorem Fetched.of_usable {r : Except Error Token} {m : Minimum}
    (h : established? b heard = some (some m)) (hm : m.isUsable = true)
    (hr : ∀ t, r = .ok t → t.minimum = m) : Fetched b chain heard r where
  usable t ht := by
    rw [Token.IsUsable, hr t ht]
    exact .inl hm
  missing hnone := by
    rw [h] at hnone
    cases hnone
  lacking m' hsome hm' := by
    rw [h] at hsome
    cases hsome
    rw [hm] at hm'
    cases hm'

theorem Fetched.meets_done {r : Except Error Token} (h : Fetched b chain heard r) :
    Session.Meets R (Kept b) (Answered R b chain) (.done r) heard :=
  Session.meets_done.mpr (.inr h)

theorem Fetched.meets_keep {r : Except Error Token} (h : Fetched b chain heard r)
    (key : Token → TokenKey) :
    Session.Meets R (Kept b) (Answered R b chain)
      (.done r >>= fun found => .remember (key found) found (.done (.ok found))) heard := by
  cases r with
  | error e => exact h.meets_done
  | ok t =>
    refine Session.meets_remember.mpr ⟨?_, h.meets_done⟩
    rcases h.usable t rfl with ht | ⟨hb, ht⟩
    · exact .inl ht
    · exact .inr ⟨hb, ht, rfl⟩

/-- A token that is known is returned as it is. -/
theorem meets_known {key : TokenKey} {next : Option Token → Session Token}
    (hknown : ∀ t, next (some t) = .done (.ok t))
    (hfetch : Session.Meets R (Kept b) (Answered R b chain) (next none) []) :
    Session.Meets R (Kept b) (Answered R b chain) (.consult key next) [] := by
  refine Session.meets_consult.mpr ⟨hfetch, fun t ht => ?_⟩
  rw [hknown]
  exact Session.meets_done.mpr (.inl ⟨rfl, t, rfl, ht⟩)

theorem meets_fetch {t : Transport} {q : Request} {describe : Json → Except Error Token}
    {key : Token → TokenKey} (hfailed : ∀ e, established? b (heard ++ [.error e]) = none)
    (hread : ∀ reply, Fetched b chain (heard ++ [.ok reply]) (describe reply)) :
    Session.Meets R (Kept b) (Answered R b chain)
      ((Session.ask t q >>= fun reply => .done (describe reply)) >>= fun found =>
        .remember (key found) found (.done (.ok found))) heard := by
  rw [Session.meets_exchange]
  rintro (e | reply)
  · exact .inr (.error (hfailed e))
  · have hkeep := (hread reply).meets_keep (R := R) key
    rw [except_ok_bind]
    cases hr : describe reply with
    | error e => exact .inr (hr ▸ hread reply)
    | ok found => rwa [hr] at hkeep

/-! ## Contracts -/

namespace Evm

theorem text_eq_ok {function : String} {answer : List UInt8} {s : String}
    (h : text function answer = .ok s) : ∃ u, s = Text.trim u := by
  unfold text at h
  split at h
  · rename_i hs
    cases h
    unfold Abi.text? at hs
    split at hs
    · exact ⟨_, (Option.some.inj hs).symm⟩
    · obtain ⟨bs, -, hs⟩ := Option.map_eq_some_iff.mp hs
      exact ⟨_, hs.symm⟩
  · cases h

theorem minimumOf_eq_ok {symbol decimals : List UInt8} {m : Minimum}
    (h : minimumOf symbol decimals = .ok (some m)) :
    Text.isBlankText m.symbol = m.symbol.isEmpty ∧ 0 ≤ m.decimals := by
  unfold minimumOf at h
  split at h
  · cases h
  · obtain ⟨n, -, h⟩ := except_bind_eq_ok.mp h
    obtain ⟨s, hs, h⟩ := except_bind_eq_ok.mp h
    cases h
    obtain ⟨u, rfl⟩ := text_eq_ok hs
    exact ⟨Text.isBlankText_trim u, Int.natCast_nonneg _⟩

/-- The token that the other answers complete. -/
def completed (chain : Chain) (address : String) (m : Minimum) (name supply : List UInt8) :
    Except Error Token :=
  (if name.isEmpty then .ok "" else text "name" name) >>= fun fullName =>
    (if supply.isEmpty then .ok U256.zero else uint "totalSupply" supply) >>= fun totalSupply =>
      .ok { Token.bare chain.name address m.symbol m.decimals with
        fullName := fullName, totalSupply := totalSupply }

theorem tokenOf_eq (chain : Chain) (address : String) (symbol decimals name supply : List UInt8) :
    tokenOf chain address symbol decimals name supply =
      (minimumOf symbol decimals >>= fun found => match found with
        | none => .error (.node (.tokenNotFound chain.name address))
        | some m =>
          if m.decimals = 0 ∨ 255 < m.decimals ∨ m.symbol.isEmpty then
            .error (.node (.tokenNotFound chain.name address))
          else completed chain address m name supply) := by
  unfold tokenOf minimumOf
  by_cases hempty : (symbol.isEmpty || decimals.isEmpty) = true
  · rw [if_pos hempty, if_pos hempty]
    rfl
  · rw [if_neg hempty, if_neg hempty]
    cases uint "decimals" decimals with
    | error e => rfl
    | ok n =>
      cases text "symbol" symbol with
      | error e => rfl
      | ok s =>
        simp only [except_ok_bind, except_pure, except_throw, except_error_bind]
        have hguard : n.toNat = 0 ∨ 255 < n.toNat ∨ s.isEmpty = true ↔
            (n.toNat : Int) = 0 ∨ 255 < (n.toNat : Int) ∨ s.isEmpty = true :=
          or_congr (by omega) (or_congr (by omega) Iff.rfl)
        by_cases hn : n.toNat = 0 ∨ 255 < n.toNat ∨ s.isEmpty = true
        · rw [if_pos hn, if_pos (hguard.mp hn)]
        · rw [if_neg hn, if_neg fun h => hn (hguard.mpr h), completed]
          cases name.isEmpty <;> cases supply.isEmpty <;> rfl

theorem completed_eq_ok {address : String} {m : Minimum} {name supply : List UInt8} {t : Token}
    (h : completed chain address m name supply = .ok t) : t.minimum = m := by
  obtain ⟨fullName, -, h⟩ := except_bind_eq_ok.mp h
  obtain ⟨supply, -, h⟩ := except_bind_eq_ok.mp h
  cases h
  rfl

theorem fetched (address : String) (reply : Json) :
    Fetched .evm chain [.ok reply] (answersOf reply >>= fun answers =>
      tokenOf chain address (answers.getD 0 []) (answers.getD 1 []) (answers.getD 2 [])
        (answers.getD 3 [])) := by
  cases hanswers : answersOf reply with
  | error e =>
    apply Fetched.error
    simp only [established?, minimum?, hanswers]
    rfl
  | ok answers =>
    have hread : established? .evm [.ok reply] =
        (minimumOf (answers.getD 0 []) (answers.getD 1 [])).toOption := by
      simp only [established?, minimum?, hanswers, except_ok_bind]
    rw [except_ok_bind, tokenOf_eq]
    cases hm : minimumOf (answers.getD 0 []) (answers.getD 1 []) with
    | error e =>
      apply Fetched.error
      rw [hread, hm]
      rfl
    | ok found =>
      rw [hm] at hread
      cases found with
      | none => exact .notFound (.inr (by decide)) ⟨_, address, rfl, rfl⟩
      | some m =>
        obtain ⟨hblank, hdecimals⟩ := minimumOf_eq_ok hm
        rw [except_ok_bind]
        dsimp only
        split
        · exact .notFound (.inr (by decide)) ⟨_, address, rfl, rfl⟩
        · rename_i hguard
          obtain ⟨hzero, hguard⟩ := not_or.mp hguard
          refine .of_usable hread ?_ fun t => completed_eq_ok
          rw [Minimum.isUsable_iff, hblank]
          exact ⟨by simpa using (not_or.mp hguard).2, by omega⟩

theorem meets_tokenInfo (t : Transport) {token : String}
    (h : Address.isHexZero (Text.trim token) = false) :
    Session.Meets R (Kept .evm) (Answered R .evm chain) (tokenInfo chain t token) [] := by
  unfold tokenInfo
  dsimp only
  rw [if_neg (by simp [h])]
  refine meets_known (fun _ => rfl) ?_
  cases haccount : account (Text.trim token) with
  | error e => exact (Fetched.error rfl).meets_done
  | ok contract =>
    change Session.Meets R _ _
      ((Session.ask t _ >>= fun reply => .done (JsonRpc.readBatch _ reply)) >>=
      fun results => .done (readAnswers results) >>= fun answers => .done (tokenOf chain _
        (answers.getD 0 []) (answers.getD 1 []) (answers.getD 2 []) (answers.getD 3 [])) >>= _) []
    rw [Session.exchange_bind, Session.exchange_bind]
    exact meets_fetch (fun _ => rfl) (fetched _)

end Evm

namespace ZksyncLite

theorem minimum?_of_resultOf {path : String} {reply v : Json} (h : resultOf path reply = .ok v) :
    minimum? reply = if v.isNull then some none
      else (metadata? v).map fun (symbol, decimals) => some ⟨symbol, decimals⟩ := by
  rw [minimum?, resultOf_eq_ok path |>.mp h]
  rfl

theorem minimum?_of_resultOf_error {path : String} {reply : Json} {e : Error}
    (h : resultOf path reply = .error e) : minimum? reply = none := by
  cases hv : resultOf "" reply with
  | error e' =>
    rw [minimum?, hv]
    rfl
  | ok v =>
    rw [(resultOf_eq_ok path).mpr hv] at h
    cases h

theorem fetched (path address : String) (reply : Json) :
    Fetched .zksyncLite chain [.ok reply] (resultOf path reply >>= tokenOf chain path address) := by
  cases hresult : resultOf path reply with
  | error e => exact .error (minimum?_of_resultOf_error hresult)
  | ok v =>
    have hread : established? .zksyncLite [.ok reply] = _ := minimum?_of_resultOf hresult
    rw [except_ok_bind]
    simp only [tokenOf, Node.readReply]
    split
    · exact .notFound (.inr (by decide)) ⟨_, address, rfl, rfl⟩
    rename_i hnull
    rw [if_neg hnull] at hread
    cases hmetadata : metadata? v with
    | none =>
      apply Fetched.error
      rw [hread, hmetadata]
      rfl
    | some found =>
      obtain ⟨symbol, decimals⟩ := found
      rw [hmetadata] at hread
      simp only [except_ok_bind]
      split
      · exact .notFound (.inr (by decide)) ⟨_, address, rfl, rfl⟩
      · rename_i hguard
        obtain ⟨hblank, hdecimals⟩ := not_or.mp hguard
        refine .of_usable hread ?_ fun t h => ?_
        · rw [Minimum.isUsable_iff]
          exact ⟨by simpa using hblank, Int.not_le.mp hdecimals⟩
        · cases h
          rfl

theorem meets_tokenInfo (t : Transport) {token : String}
    (h : Address.isNative (Text.trim token) = false) :
    Session.Meets R (Kept .zksyncLite) (Answered R .zksyncLite chain)
      (tokenInfo chain t token) [] := by
  unfold tokenInfo
  dsimp only
  rw [if_neg (by simp [h])]
  refine meets_known (fun _ => rfl) ?_
  change Session.Meets R _ _
    ((Session.ask t _ >>= fun reply => .done (resultOf _ reply)) >>= fun v =>
    .done (tokenOf chain _ _ v) >>= _) []
  rw [Session.exchange_bind]
  exact meets_fetch (fun _ => rfl) (fetched _ _)

end ZksyncLite

namespace Solana

/-- Any mint is taken for a token. -/
theorem tokenOf_of_mint (address : String) (names : Metadata) {data : List UInt8} {mint : Mint}
    (h : mint? data = some mint) :
    ∃ t, tokenOf chain address names (some data) = .ok t ∧
    t.minimum = minimumOf names data mint := by
  simp only [tokenOf, h, except_pure]
  exact ⟨_, rfl, by rw [Token.minimum, minimumOf, Token.bare]⟩

theorem fetched (address : String) {names : Metadata} {first second : Json}
    (hnames : dataOf first >>= accountNames = .ok names) :
    Fetched .solana chain [.ok first, .ok second]
      (dataOf second >>= tokenOf chain address names) := by
  have hread : established? .solana [.ok first, .ok second] = (dataOf second).toOption.bind fun
      | none => some none
      | some data => (mint? data).map fun mint => some (minimumOf names data mint) := by
    simp only [established?, minimum?, hnames]
    rfl
  cases hdata : dataOf second with
  | error e =>
    apply Fetched.error
    rw [hread, hdata]
    rfl
  | ok data =>
    rw [hdata] at hread
    rw [except_ok_bind]
    cases data with
    | none => exact .notFound (.inl hread) ⟨_, address, rfl, rfl⟩
    | some data =>
      change established? _ _ = (mint? data).map _ at hread
      cases hmint : mint? data with
      | none =>
        simp only [tokenOf, hmint]
        apply Fetched.error
        rw [hread, hmint]
        rfl
      | some mint =>
        rw [hmint] at hread
        obtain ⟨t, ht, hminimum⟩ := tokenOf_of_mint address names hmint
        rw [ht]
        exact {
          usable t' h := by
            cases h
            exact .inr ⟨rfl, by rw [hread, hminimum]; rfl⟩
          missing h := by
            rw [hread] at h
            cases h
          lacking m h _ := by
            rw [hread] at h
            rw [if_pos rfl]
            exact ⟨t, rfl, hminimum.trans (Option.some.inj (Option.some.inj h))⟩ }

theorem account_eq (t : Transport) (k : Key) : account t k =
    Session.ask t (.post ""
      (JsonRpc.request 1 "getAccountInfo" (.list [.text (keyText k), accountOptions])))
      >>= fun reply => .done (dataOf reply) :=
  Session.exchange_bind_done

theorem meets_tokenInfo (t : Transport) {token : String}
    (h : Address.isNative (Text.trim token) = false) :
    Session.Meets R (Kept .solana) (Answered R .solana chain) (tokenInfo chain t token) [] := by
  unfold tokenInfo
  dsimp only
  rw [if_neg (by simp [h])]
  refine meets_known (fun _ => rfl) ?_
  cases hkey : key (Text.trim token) with
  | error e => exact (Fetched.error rfl).meets_done
  | ok mint =>
    change Session.Meets R _ _ (account t (metadataAccount mint) >>= fun data =>
      .done (accountNames data) >>= fun names => account t mint >>= fun data =>
        .done (tokenOf chain (Text.trim token) names data) >>= _) []
    rw [account_eq, Session.exchange_bind, Session.meets_exchange]
    rintro (e | first)
    · exact .inr (.error rfl)
    · rw [except_ok_bind]
      cases hnames : dataOf first >>= accountNames with
      | error e => exact .inr (.error rfl)
      | ok names =>
        dsimp only
        rw [account_eq, Session.exchange_bind]
        exact meets_fetch (fun _ => rfl) fun second => fetched _ hnames

end Solana

namespace Sui

theorem usable?_eq_some {found : Option Metadata} {m : Metadata} (h : usable? found = some m) :
    found = some m ∧ Minimum.isUsable ⟨m.symbol, m.decimals⟩ = true := by
  rw [usable?, Option.filter_eq_some_iff] at h
  exact h

def readMetadata (reply : Json) : Except Error (Option Metadata) :=
  JsonRpc.resultOf "suix_getCoinMetadata" reply >>=
    Node.readReply "suix_getCoinMetadata" "metadata" optionalMetadata?

theorem minimum?_eq (reply : Json) :
    minimum? reply = (readMetadata reply).toOption.map (·.map fun m => ⟨m.symbol, m.decimals⟩) := by
  unfold minimum? readMetadata
  cases JsonRpc.resultOf "suix_getCoinMetadata" reply with
  | error e => rfl
  | ok v =>
    simp only [except_ok_bind, Node.readReply]
    cases hv : optionalMetadata? v with
    | none => simp [Except.toOption, hv]
    | some found => simp [Except.toOption, hv]

/-- A supply is had in any case. -/
theorem meets_totalSupply {P : List Reply → Token → Session U256 → Prop}
    {Q : List Reply → Except Error U256 → Prop} (t : Transport) (coin : String)
    (h : ∀ reply supply, Q (heard ++ [reply]) (.ok supply)) :
    Session.Meets R P Q (totalSupply t coin) heard := by
  refine Session.meets_send.mpr ?_
  rintro (e | reply)
  · exact Session.meets_done.mpr (h _ _)
  · change Session.Meets R P Q
      (tryCatch (.done (JsonRpc.resultOf "suix_getTotalSupply" reply) >>= fun v =>
      .done (supplyOf v)) fun _ => pure U256.zero) _
    rw [Session.done_bind_done]
    cases JsonRpc.resultOf "suix_getTotalSupply" reply >>= supplyOf with
    | error e => exact Session.meets_done.mpr (h _ _)
    | ok supply => exact Session.meets_done.mpr (h _ _)

theorem legacy_usable {coin : String} {t : Token} (h : legacy? chain coin = some t) :
    t.IsUsable := by
  obtain ⟨c, hc, rfl⟩ := Option.map_eq_some_iff.mp h
  have hsymbols : legacyCoins.all (Text.startsPrinted ·.symbol) = true := by decide +kernel
  have hsymbol := List.all_eq_true.mp hsymbols c (List.mem_of_find?_eq_some hc)
  rw [Token.IsUsable, Minimum.isUsable_iff]
  exact ⟨Text.isBlankText_of_startsPrinted hsymbol, show 0 < legacyDecimals by decide⟩

theorem meets_tokenInfo (t : Transport) {token : String}
    (h : Address.isNative (Text.trim token) = false) :
    Session.Meets R (Kept .sui) (Answered R .sui chain) (tokenInfo chain t token) [] := by
  unfold tokenInfo
  dsimp only
  rw [if_neg (by simp [h])]
  generalize hlegacy : legacy? chain (Text.trim token) = found
  cases found with
  | some known =>
    refine (Fetched.unread rfl fun t ht => ?_).meets_done
    cases ht
    exact legacy_usable hlegacy
  | none =>
    refine meets_known (fun _ => rfl) ?_
    change Session.Meets R _ _ ((Session.ask t _ >>= fun reply =>
      .done (JsonRpc.resultOf "suix_getCoinMetadata" reply)) >>= fun v =>
        .done (Node.readReply "suix_getCoinMetadata" "metadata" optionalMetadata? v) >>= _) []
    rw [Session.exchange_bind, Session.meets_exchange]
    rintro (e | reply)
    · exact .inr (.error rfl)
    have hminimum : ∀ rest, established? .sui (.ok reply :: rest) = _ := fun _ => minimum?_eq reply
    have hdef : JsonRpc.resultOf "suix_getCoinMetadata" reply >>=
      Node.readReply "suix_getCoinMetadata" "metadata" optionalMetadata? = readMetadata reply := rfl
    rw [except_ok_bind, hdef]
    cases hread : readMetadata reply with
    | error e =>
      refine .inr (.error ?_)
      rw [List.nil_append, hminimum, hread]
      rfl
    | ok found =>
      dsimp only
      generalize hfound : usable? found = usable
      cases usable with
      | none => exact (Fetched.notFound (.inr (by decide)) ⟨_, _, rfl, rfl⟩).meets_done
      | some m =>
        obtain ⟨rfl, husable⟩ := usable?_eq_some hfound
        dsimp only
        rw [Session.meets_bind]
        -- The supply is asked for behind the metadata. Whatever comes of it, the token is kept.
        refine meets_totalSupply t _ fun supplied supply => ?_
        refine Session.meets_remember.mpr
          ⟨.inl husable, (Fetched.of_usable ?_ husable ?_).meets_done⟩
        · rw [List.nil_append, List.singleton_append, hminimum, hread]
          rfl
        · intro t ht
          cases ht
          rfl

end Sui

end CrossChain
