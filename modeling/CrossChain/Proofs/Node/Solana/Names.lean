import CrossChain.Proofs.Node.Metadata
import CrossChain.Proofs.Node.Solana.Layout
import CrossChain.Transport.Queued

/-!
# Names of Solana tokens

The names of a token are padded to a fixed width with zeros, and may have white space around them.
The zeros are dropped first and the white space after them (`toList_clean`). So a name is left
without padding exactly when no zero of the padding stands inside the white space
(`isCleaned_clean_iff`, `ZerosOutside`).

A query asks for the metadata account of a token and for its mint (`Holds`), and takes the names
from their only source (`run_tokenInfo_eq_ok`, `sourceOf_iff`).

Main statement (`tokenInfo_isNamed_iff`): a query that fetches a token takes its names from their
source, and what it makes of them is free of zeros and white space at both ends exactly when no zero
stands inside the white space around either.
-/

namespace CrossChain.Solana

/-! ## Padding -/

/-- What is not to stand around a name. -/
def isPadding (c : Char) : Bool := c == '\x00' || Text.isBlank c

/-- A text without the padding around it: nothing else is taken away, and no padding is left at
either end. -/
structure IsCleaned (source cleaned : String) : Prop where
  first : cleaned.toList.head?.map isPadding ≠ some true
  last : cleaned.toList.getLast?.map isPadding ≠ some true
  around : ∃ front back, source.toList = front ++ (cleaned.toList ++ back) ∧
    (∀ c ∈ front, isPadding c = true) ∧ ∀ c ∈ back, isPadding c = true

/-- On both sides of a text white space follows it first, and zeros only behind that. -/
def ZerosOutside (source : String) : Prop :=
  ∃ zeros blanks core blanks' zeros',
    source.toList = zeros ++ ((blanks ++ (core ++ blanks')) ++ zeros') ∧
    (∀ c ∈ zeros ++ zeros', c = '\x00') ∧ (∀ c ∈ blanks ++ blanks', Text.isBlank c = true) ∧
    Text.stripWhile isPadding core = core

theorem isCleaned_iff {source cleaned : String} :
    IsCleaned source cleaned ↔ Text.stripWhile isPadding source.toList = cleaned.toList := by
  rw [Text.stripWhile_eq_iff, Text.stripWhile_eq_self_iff, and_assoc]
  exact ⟨fun h => ⟨h.first, h.last, h.around⟩, fun ⟨first, last, around⟩ => ⟨first, last, around⟩⟩

/-- What is bare of padding is bare of each kind of it. -/
theorem stripWhile_eq_self_of_isPadding {p : Char → Bool}
    (hp : ∀ c, p c = true → isPadding c = true)
    {cs : List Char} (h : Text.stripWhile isPadding cs = cs) : Text.stripWhile p cs = cs := by
  have hedge {c : Option Char} (hc : c.map isPadding ≠ some true) : c.map p ≠ some true := by
    intro hpc
    obtain ⟨d, rfl, hd⟩ := Option.map_eq_some_iff.mp hpc
    exact hc (congrArg some (hp d hd))
  rw [Text.stripWhile_eq_self_iff] at h ⊢
  exact ⟨hedge h.1, hedge h.2⟩

theorem isPadding_of_isBlank (c : Char) (h : Text.isBlank c = true) : isPadding c = true := by
  rw [isPadding, h, Bool.or_true]

theorem isPadding_of_zero (c : Char) (h : (c == '\x00') = true) : isPadding c = true := by
  rw [isPadding, h, Bool.true_or]

theorem toList_clean (s : String) : (clean s).toList =
    Text.stripWhile Text.isBlank (Text.stripWhile (· == '\x00') s.toList) := by
  rw [clean, Text.trim, String.toList_ofList, String.toList_ofList]

/-- The ends of a text that is bare of padding are no zeros, nor are those of the white space around
it. -/
theorem stripWhile_zero_blanks {blanks core blanks' : List Char}
    (hblanks : ∀ c ∈ blanks ++ blanks', Text.isBlank c = true)
    (hcore : Text.stripWhile isPadding core = core) :
    Text.stripWhile (· == '\x00') (blanks ++ (core ++ blanks')) = blanks ++ (core ++ blanks') := by
  have hblank {c : Char} (hc : c ∈ blanks ++ blanks') : c ≠ '\x00' := by
    rintro rfl
    cases hblanks _ hc
  have hends :=
    Text.stripWhile_eq_self_iff.mp (stripWhile_eq_self_of_isPadding isPadding_of_zero hcore)
  simp only [ne_eq, Option.map_eq_some_iff, beq_iff_eq, exists_eq_right] at hends
  rw [Text.stripWhile_eq_self_iff]
  simp only [ne_eq, Option.map_eq_some_iff, beq_iff_eq, exists_eq_right, List.head?_append,
    List.getLast?_append, Option.or_eq_some_iff]
  constructor
  · rintro (h | ⟨-, h | ⟨-, h⟩⟩)
    · exact hblank (List.mem_append_left _ (List.mem_of_head? h)) rfl
    · exact hends.1 h
    · exact hblank (List.mem_append_right _ (List.mem_of_head? h)) rfl
  · rintro ((h | ⟨-, h⟩) | ⟨-, h⟩)
    · exact hblank (List.mem_append_right _ (List.mem_of_getLast? h)) rfl
    · exact hends.2 h
    · exact hblank (List.mem_append_left _ (List.mem_of_getLast? h)) rfl

/-- A name is left without padding exactly when no zero stands inside the white space around it. -/
theorem isCleaned_clean_iff {source : String} : IsCleaned source (clean source) ↔
    ZerosOutside source := by
  rw [isCleaned_iff, toList_clean]
  constructor
  -- Stripped in two passes, a text has zeros outside and white space inside of them. The passes
  -- leave the core exactly where nothing of the core would be stripped by either.
  · intro h
    obtain ⟨-, zeros, zeros', hsource, hzeros, hzeros'⟩ :=
      Text.stripWhile_eq_iff.mp (rfl : Text.stripWhile (· == '\x00') source.toList = _)
    obtain ⟨-, blanks, blanks', hwhole, hblanks, hblanks'⟩ :=
      Text.stripWhile_eq_iff.mp
        (rfl : Text.stripWhile Text.isBlank (Text.stripWhile (· == '\x00') source.toList) = _)
    refine ⟨zeros, blanks, _, blanks', zeros', hwhole ▸ hsource, ?_, ?_, ?_⟩
    · exact List.forall_mem_append.mpr ⟨fun c hc => eq_of_beq (hzeros c hc),
        fun c hc => eq_of_beq (hzeros' c hc)⟩
    · exact List.forall_mem_append.mpr ⟨hblanks, hblanks'⟩
    · rw [← h, Text.stripWhile_stripWhile]
  · rintro ⟨zeros, blanks, core, blanks', zeros', hsource, hzeros, hblanks, hcore⟩
    obtain ⟨hz, hz'⟩ := List.forall_mem_append.mp fun c hc => beq_iff_eq.mpr (hzeros c hc)
    obtain ⟨hb, hb'⟩ := List.forall_mem_append.mp hblanks
    have hinner : Text.stripWhile (· == '\x00') source.toList = blanks ++ (core ++ blanks') :=
      Text.stripWhile_eq_iff.mpr ⟨stripWhile_zero_blanks hblanks hcore, zeros, zeros',
        hsource, hz, hz'⟩
    have hclean : Text.stripWhile Text.isBlank (blanks ++ (core ++ blanks')) = core :=
      Text.stripWhile_eq_iff.mpr ⟨stripWhile_eq_self_of_isPadding isPadding_of_isBlank hcore, _,
        _, rfl, hb, hb'⟩
    rw [hinner, hclean, Text.stripWhile_eq_iff]
    refine ⟨hcore, zeros ++ blanks, blanks' ++ zeros', by simp [hsource], ?_, ?_⟩
    · exact List.forall_mem_append.mpr
        ⟨fun c hc => isPadding_of_zero c (hz c hc), fun c hc => isPadding_of_isBlank c (hb c hc)⟩
    · exact List.forall_mem_append.mpr
        ⟨fun c hc => isPadding_of_isBlank c (hb' c hc), fun c hc => isPadding_of_zero c (hz' c hc)⟩

/-! ## Queries -/

variable {remote : RemoteSettings} {chain : Chain} {n : Node} {τ : Type} {net : Network τ}
  {c : TokenCache} {s : τ} {token : String} {info : Token} {t : Transport} {k : Key}
  {names m : Metadata}

def accountQuery (k : Key) : Request :=
  .post "" (JsonRpc.request 1 "getAccountInfo" (.list [.text (keyText k), accountOptions]))

/-- The replies to the queries for the metadata account of a token and for its mint hold these
data. -/
def Holds (net : Network τ) (s : τ) (chain : Chain) (token : String) (account : Option (List UInt8))
    (mint : List UInt8) : Prop :=
  ∃ t k, Node.transportOf chain = .ok t ∧ key (Text.trim token) = .ok k ∧
    (net.send t (accountQuery (metadataAccount k)) s).1 >>= dataOf = .ok account ∧
    (net.send t (accountQuery k) (net.send t (accountQuery (metadataAccount k)) s).2).1 >>= dataOf =
      .ok (some mint)

/-- The names that a token has from its mint or from its metadata account, as the replies of a
network hold them. -/
def SourceOf (net : Network τ) (s : τ) (chain : Chain) (token : String) (m : Metadata) : Prop :=
  ∃ account mint, Holds net s chain token account mint ∧ IsSource account mint m

/-- A token has the names of its source, each without the padding around it: the symbol as its name,
and the name as its full name. -/
structure IsNamed (m : Metadata) (info : Token) : Prop where
  name : IsCleaned m.symbol info.name
  fullName : IsCleaned m.name info.fullName

theorem Holds.unique {account account' : Option (List UInt8)} {mint mint' : List UInt8}
    (h : Holds net s chain token account mint) (h' : Holds net s chain token account' mint') :
    account = account' ∧ mint = mint' := by
  obtain ⟨t, k, ht, hk, hfirst, hsecond⟩ := h
  obtain ⟨t', k', ht', hk', hfirst', hsecond'⟩ := h'
  cases ht.symm.trans ht'
  cases hk.symm.trans hk'
  exact ⟨Except.ok.inj (hfirst.symm.trans hfirst'),
    Option.some.inj (Except.ok.inj (hsecond.symm.trans hsecond'))⟩

theorem sourceOf_iff {account : Option (List UInt8)} {mint : List UInt8}
    (h : Holds net s chain token account mint) (hnames : accountNames account = .ok names) :
    SourceOf net s chain token m ↔ m = (mintMetadata? mint).getD names := by
  rw [← isSource_iff hnames]
  constructor
  · rintro ⟨account', mint', h', hsource⟩
    obtain ⟨rfl, rfl⟩ := h.unique h'
    exact hsource
  · exact fun hsource => ⟨account, mint, h, hsource⟩

theorem run_account : Session.run net (account t k) c s =
    ((net.send t (accountQuery k) s).1 >>= dataOf, c, (net.send t (accountQuery k) s).2) := by
  rw [account_eq, Session.run_read]
  rfl

theorem tokenOf_eq_ok {address : String} {data : Option (List UInt8)}
    (h : tokenOf chain address names data = .ok info) : ∃ mint, data = some mint ∧
      info.name = clean ((mintMetadata? mint).getD names).symbol ∧
      info.fullName = clean ((mintMetadata? mint).getD names).name := by
  cases data with
  | none => cases h
  | some mint =>
    unfold tokenOf at h
    dsimp only at h
    split at h
    · cases h
      exact ⟨mint, rfl, rfl, rfl⟩
    · cases h

/-- A query that has fetched a token has read its names from their only source. -/
theorem run_tokenInfo_eq_ok (ht : Node.transportOf chain = .ok t)
    (hnative : Address.isNative (Text.trim token) = false)
    (hnew : c.get? .solana chain.name (Text.trim token) = none)
    (h : (Session.run net (tokenInfo chain t token) c s).1 = .ok info) :
    ∃ m, (∀ m', SourceOf net s chain token m' ↔ m' = m) ∧ info.name = clean m.symbol ∧
      info.fullName = clean m.name := by
  unfold tokenInfo at h
  dsimp only at h
  have hunknown : c.find? (Token.keyOf .solana chain.name (Text.trim token)) = none := hnew
  rw [if_neg (by simp [hnative]), Session.run_consult_bind, hunknown] at h
  cases hkey : key (Text.trim token) with
  | error e =>
    rw [hkey] at h
    cases h
  | ok k =>
    rw [hkey] at h
    change (Session.run net (account t (metadataAccount k) >>= fun data =>
      .done (accountNames data) >>=
      fun names => account t k >>=
        fun data => .done (tokenOf chain (Text.trim token) names data) >>= _) c s).1 =
        _ at h
    -- The session ends well, and so does each of its steps: two replies, and what is read of them.
    obtain ⟨first, hfirst, h⟩ := Session.run_bind_eq_ok.mp h
    obtain ⟨names, hnames, h⟩ := Session.run_bind_eq_ok.mp h
    obtain ⟨second, hsecond, h⟩ := Session.run_bind_eq_ok.mp h
    obtain ⟨found, hfound, h⟩ := Session.run_bind_eq_ok.mp h
    cases h
    rw [run_account] at hfirst
    rw [Session.run_done, run_account, run_account] at hsecond
    obtain ⟨mint, rfl, hname, hfullName⟩ := tokenOf_eq_ok hfound
    exact ⟨_, fun _ => sourceOf_iff ⟨t, k, ht, hkey, hfirst, hsecond⟩ hnames, hname, hfullName⟩

theorem of_node_eq_ok (h : node chain = .ok n) :
    ∃ t, Node.transportOf chain = .ok t ∧ ∀ token, n.tokenInfo token = tokenInfo chain t token := by
  obtain ⟨t, ht, h⟩ := except_bind_eq_ok.mp h
  cases h
  dsimp only
  exact ⟨t, ht, fun _ => rfl⟩

/-- A token that a node of Solana fetches has the names of their only source without the padding
around them, exactly when no zero stands inside the white space around either. -/
theorem tokenInfo_isNamed_iff (h : Node.ofChain remote chain = .ok n) (hb : chain.backend = .solana)
    (hnative : Address.isNative (Text.trim token) = false)
    (hnew : c.get? .solana chain.name (Text.trim token) = none)
    (hrun : (Session.run net (n.tokenInfo token) c s).1 = .ok info) :
    ∃ m, (∀ m', SourceOf net s chain token m' ↔ m' = m) ∧
      (IsNamed m info ↔ ZerosOutside m.symbol ∧ ZerosOutside m.name) := by
  obtain ⟨b, hbare, rfl⟩ := Node.ofChain_eq_ok.mp h
  cases hbare with
  | solana _ hnode =>
    obtain ⟨t, ht, hinfo⟩ := of_node_eq_ok hnode
    have hbareRun := Node.run_inContext.mp hrun
    rw [hinfo] at hbareRun
    obtain ⟨m, hsource, hname, hfullName⟩ := run_tokenInfo_eq_ok ht hnative hnew hbareRun
    refine ⟨m, hsource, ?_⟩
    rw [← isCleaned_clean_iff, ← isCleaned_clean_iff, ← hname, ← hfullName]
    exact ⟨fun h => ⟨h.name, h.fullName⟩, fun h => ⟨h.1, h.2⟩⟩
  | evm hb' | starknet hb' | bitcoin hb' | zksyncLite hb' | ton hb' | benfen hb' | sui hb'
    | fuel hb' =>
    cases hb.symm.trans hb'

/-! ## A coin with a padded symbol -/

/-- The octets that write a short text. -/
def written (s : String) : List UInt8 :=
  UInt8.ofNat (Text.encode s).length :: 0 :: 0 :: 0 :: Text.encode s

/-- The metadata account of a coin with a symbol. -/
def coinAccount (symbol : String) : List UInt8 :=
  List.replicate 65 0 ++ (written "USD Coin" ++ (written symbol ++ written ""))

/-- A mint without extensions, of a coin with six decimals. -/
def coinMint : List UInt8 := List.replicate 44 0 ++ 6 :: List.replicate 37 0

def holding (data : List UInt8) : Json :=
  .object [("result", .object [("value", .object
    [("data", .list [.text (String.ofList (Base64.standard.encode data)), .text "base64"])])])]

def coinReplies (symbol : String) : QueuedNetwork :=
  QueuedNetwork.empty.load [.ok (holding (coinAccount symbol)), .ok (holding coinMint)]

def coinChain : Chain := .reached .solana (.jsonRpc ⟨"", 0⟩)

/-- The address of the coin: thirty-one zeros and a one. -/
def coinAddress : String := String.ofList (List.replicate 31 '1' ++ ['2'])

/-- What a query for the coin ends with. -/
def coinRun (symbol : String) : Except Error Token :=
  Node.ofChain .empty coinChain >>= fun n =>
    (Session.run QueuedNetwork.network (n.tokenInfo coinAddress) .empty (coinReplies symbol)).1

theorem sourceOf_coin (symbol : String)
    (haccount : (dataOf (holding (coinAccount symbol))).toOption = some (some (coinAccount symbol)))
    (hnames : (accountNames (some (coinAccount symbol))).toOption = some ⟨"USD Coin", symbol⟩) :
    SourceOf QueuedNetwork.network (coinReplies symbol) coinChain coinAddress m ↔
      m = ⟨"USD Coin", symbol⟩ := by
  rw [except_toOption_eq_some] at haccount hnames
  obtain ⟨k, hk⟩ : ∃ k, (key (Text.trim coinAddress)).toOption = some k :=
    Option.isSome_iff_exists.mp (by decide +kernel)
  have hmint : dataOf (holding coinMint) = .ok (some coinMint) :=
    except_toOption_eq_some.mp (by decide +kernel)
  have hsend (q q' : Request) : (QueuedNetwork.network.send ⟨"", 0⟩ q (coinReplies symbol)).1 =
      .ok (holding (coinAccount symbol)) ∧ (QueuedNetwork.network.send ⟨"", 0⟩ q'
        (QueuedNetwork.network.send ⟨"", 0⟩ q (coinReplies symbol)).2).1 =
          .ok (holding coinMint) := ⟨rfl, rfl⟩
  have hholds : Holds QueuedNetwork.network (coinReplies symbol) coinChain coinAddress
    (some (coinAccount symbol))
      coinMint := by
    refine ⟨⟨"", 0⟩, k, rfl, except_toOption_eq_some.mp hk, ?_, ?_⟩
    · rw [(hsend _ (accountQuery k)).1, except_ok_bind, haccount]
    · rw [(hsend _ (accountQuery k)).2, except_ok_bind, hmint]
  have hnone : mintMetadata? coinMint = none := by decide +kernel
  rw [sourceOf_iff hholds hnames, hnone, Option.getD_none]

/-- White space inside the zeros goes with them. -/
theorem tokenInfo_isNamed_coin : ∃ n info, Node.ofChain .empty coinChain = .ok n ∧
    Address.isNative (Text.trim coinAddress) = false ∧
    TokenCache.get? .empty .solana coinChain.name (Text.trim coinAddress) = none ∧
    (Session.run QueuedNetwork.network (n.tokenInfo coinAddress) .empty
      (coinReplies " USDC \x00")).1 = .ok info ∧
    SourceOf QueuedNetwork.network (coinReplies " USDC \x00") coinChain coinAddress
      ⟨"USD Coin", " USDC \x00"⟩ ∧
    IsNamed ⟨"USD Coin", " USDC \x00"⟩ info := by
  have hnative : Address.isNative (Text.trim coinAddress) = false := by decide +kernel
  have hnew : TokenCache.get? .empty .solana coinChain.name (Text.trim coinAddress) = none := rfl
  have hsource {m : Metadata} :=
    sourceOf_coin " USDC \x00" (m := m) (by decide +kernel) (by decide +kernel)
  have hcoin : (coinRun " USDC \x00").toOption =
      some { Token.bare "" coinAddress "USDC" 6 with fullName := "USD Coin" } := by decide +kernel
  obtain ⟨n, hn, hrun⟩ := except_bind_eq_ok.mp (except_toOption_eq_some.mp hcoin)
  obtain ⟨m, hm, hnamed⟩ := tokenInfo_isNamed_iff hn rfl hnative hnew hrun
  obtain rfl := (hm _).mp (hsource.mpr rfl)
  refine ⟨n, _, hn, hnative, hnew, hrun, hsource.mpr rfl, hnamed.mpr ⟨?_, ?_⟩⟩
  · exact ⟨[], [' '], "USDC".toList, [' '], ['\x00'], by decide, List.forall_mem_singleton.mpr rfl,
      List.all_eq_true.mp rfl, by decide⟩
  · exact ⟨[], [], "USD Coin".toList, [], [], by decide, List.forall_mem_nil _,
      List.forall_mem_nil _, by decide⟩

/-- A zero in front of white space is left at the end of a symbol. -/
theorem not_isNamed_coin : ∃ n info, Node.ofChain .empty coinChain = .ok n ∧
    (Session.run QueuedNetwork.network (n.tokenInfo coinAddress) .empty (coinReplies "USDC\x00 ")).1
      = .ok info ∧
    SourceOf QueuedNetwork.network (coinReplies "USDC\x00 ") coinChain coinAddress
      ⟨"USD Coin", "USDC\x00 "⟩ ∧
    info.name = "USDC\x00" ∧ ¬ IsNamed ⟨"USD Coin", "USDC\x00 "⟩ info := by
  have hsource := (sourceOf_coin "USDC\x00 " (by decide +kernel) (by decide +kernel)).mpr rfl
  have hcoin : (coinRun "USDC\x00 ").toOption =
      some { Token.bare "" coinAddress "USDC\x00" 6 with fullName := "USD Coin" } := by
        decide +kernel
  obtain ⟨n, hn, hrun⟩ := except_bind_eq_ok.mp (except_toOption_eq_some.mp hcoin)
  exact ⟨n, _, hn, hrun, hsource, rfl, fun h => h.name.last (by decide)⟩

end CrossChain.Solana
