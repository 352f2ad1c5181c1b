import Gatehouse.Proofs.Token.RoundTrip

/-! Tokens that are exchanged for new ones, again and again. Every token in circulation was issued for the
one whom the first was issued for, as an exchange reads its claims back and issues the next token for
them. So an exchange fails for one reason only, which is that the last second of its token is over. -/
namespace Gatehouse.Token
open Utf8 Json.Decoder

variable {config : TokenConfig} {userId email role : String} {lifetime : Nat}

/-! ## One exchange -/

/-- Whoever looks into a signed token finds the claims that were signed. -/
theorem peek_sign (config : TokenConfig) {claims : Claims} (timely : claims.Timely) :
    peekClaims (sign config claims) = .ok claims := by
  have header : (readPart TokenHeader.shape (Base64Url.encode (encode TokenHeader.issued))).mapError
      .invalid = (.ok (⟨.hs256⟩, _) : Except TokenError (TokenHeader × Bytes)) :=
    map_error_ok_iff.mpr (read_part_iff.mpr ⟨rfl, TokenHeader.issued_read⟩)
  have payload : (readClaims (Base64Url.encode (encode claims.toJson))).mapError .invalid =
      (.ok claims : Except TokenError Claims) :=
    map_error_ok_iff.mpr
      (read_claims_iff.mpr ⟨_, rfl, claims.json_read timely, checked_members_pass claims⟩)
  have parts : parts? (sign config claims) = some _ := parts_of_framed config.secret _ _
  simp only [peekClaims, parts, header, payload, bind, Except.bind]

theorem peek_issued {issuedAt : Nat} (onClock : issuedAt ≤ lastSecond) :
    peekClaims (issue config issuedAt userId email role lifetime) =
      .ok ⟨userId, email, role, config.issuer, userId, [config.audience],
        expiry issuedAt lifetime, issuedAt, issuedAt⟩ := by
  rw [issue, peek_sign config (claims_issued_timely config userId email role lifetime onClock),
    claims_issued config userId email role lifetime onClock]

/-- From the second of its issue on a token is exchanged up to its last second. -/
theorem refresh_issued {issuedAt now : Nat} (onClock : issuedAt ≤ lastSecond)
    (started : issuedAt ≤ now) :
    refreshAccess config now (issue config issuedAt userId email role lifetime) =
      if now ≤ expiry issuedAt lifetime then .ok (issueAccess config now userId email role)
      else .error .expired := by
  have notEarly : ¬ now < issuedAt := Nat.not_lt.mpr started
  unfold refreshAccess
  rw [validate_issued config userId email role lifetime onClock]
  by_cases timely : now ≤ expiry issuedAt lifetime
  · rw [if_neg (Int.not_lt.mpr timely), if_neg notEarly, if_pos timely]
    rfl
  · rw [if_pos (Int.not_le.mp timely), if_neg timely]
    rfl

/-! ## Chains of exchanges -/

/-- A token that is handed in to be exchanged, and the second in which that happens. -/
structure Exchange where
  second : Nat
  token : String

/-- The tokens in circulation behind an exchange. There is a new one if it succeeds. -/
def circulating (config : TokenConfig) (tokens : List String) (exchange : Exchange) :
    List String :=
  match refreshAccess config exchange.second exchange.token with
  | .ok fresh => tokens ++ [fresh]
  | .error _ => tokens

/-- Exchanges one after another, none before the second `since`. What is handed in is one of the tokens
that are in circulation then. -/
inductive Chain (config : TokenConfig) : (since : Nat) → List String → List Exchange → Prop
  | nil {since : Nat} {tokens : List String} : Chain config since tokens []
  | cons {since : Nat} {tokens : List String} {exchange : Exchange} {rest : List Exchange}
      (held : exchange.token ∈ tokens) (later : since ≤ exchange.second)
      (onClock : exchange.second ≤ lastSecond)
      (others : Chain config exchange.second (circulating config tokens exchange) rest) :
      Chain config since tokens (exchange :: rest)

/-- The token that a chain starts from. It is issued for any lifetime, or for one of the two that are
configured. -/
inductive StartsWith (config : TokenConfig) (issuedAt : Nat) (userId email role : String) :
    String → Prop
  | any (lifetime : Nat) :
      StartsWith config issuedAt userId email role (issue config issuedAt userId email role lifetime)
  | access : StartsWith config issuedAt userId email role (issueAccess config issuedAt userId email role)
  | refresh :
      StartsWith config issuedAt userId email role (issueRefresh config issuedAt userId email role)

/-- A token that has been issued for someone up to some second. -/
def IssuedBy (config : TokenConfig) (userId email role : String) (now : Nat) (token : String) :
    Prop :=
  ∃ issuedAt lifetime : Nat, issuedAt ≤ now ∧ (issuedAt : Int) ≤ lastSecond ∧
    token = issue config issuedAt userId email role lifetime

theorem IssuedBy.later {now after : Nat} {token : String}
    (issued : IssuedBy config userId email role now token) (later : now ≤ after) :
    IssuedBy config userId email role after token := by
  obtain ⟨issuedAt, lifetime, before, onClock, same⟩ := issued
  exact ⟨issuedAt, lifetime, Nat.le_trans before later, onClock, same⟩

theorem StartsWith.issued {issuedAt : Nat} {first : String}
    (starts : StartsWith config issuedAt userId email role first)
    (onClock : issuedAt ≤ lastSecond) : IssuedBy config userId email role issuedAt first := by
  cases starts with
  | any lifetime => exact ⟨issuedAt, lifetime, Nat.le_refl _, onClock, rfl⟩
  | access => exact ⟨issuedAt, config.accessLifetime, Nat.le_refl _, onClock, rfl⟩
  | refresh => exact ⟨issuedAt, config.refreshLifetime, Nat.le_refl _, onClock, rfl⟩

theorem circulating_minted {tokens : List String} {exchange : Exchange} {fresh : String}
    (minted : refreshAccess config exchange.second exchange.token = .ok fresh) :
    circulating config tokens exchange = tokens ++ [fresh] := by
  simp only [circulating, minted]

theorem circulating_refused {tokens : List String} {exchange : Exchange} {error : TokenError}
    (refused : refreshAccess config exchange.second exchange.token = .error error) :
    circulating config tokens exchange = tokens := by
  simp only [circulating, refused]

/-- An exchange leaves nothing in circulation that was issued for anyone else. -/
theorem circulating_issued {tokens : List String} {exchange : Exchange} {since : Nat}
    (issued : ∀ token ∈ tokens, IssuedBy config userId email role since token)
    (held : exchange.token ∈ tokens) (later : since ≤ exchange.second)
    (onClock : exchange.second ≤ lastSecond) :
    ∀ token ∈ circulating config tokens exchange,
      IssuedBy config userId email role exchange.second token := by
  have still (token : String) (member : token ∈ tokens) :
      IssuedBy config userId email role exchange.second token := (issued token member).later later
  obtain ⟨issuedAt, lifetime, started, known, same⟩ := still exchange.token held
  unfold circulating
  rw [same, refresh_issued known started]
  by_cases timely : exchange.second ≤ expiry issuedAt lifetime
  · rw [if_pos timely]
    intro token member
    rcases List.mem_append.mp member with old | new
    · exact still token old
    · rw [List.mem_singleton.mp new]
      exact ⟨exchange.second, config.accessLifetime, Nat.le_refl _, onClock, rfl⟩
  · rw [if_neg timely]
    exact still

/-- Whatever is handed in along a chain was issued for the one whom the chain started with. -/
theorem Chain.issued {since : Nat} {tokens : List String} {before after : List Exchange}
    {exchange : Exchange} (chain : Chain config since tokens (before ++ exchange :: after))
    (issued : ∀ token ∈ tokens, IssuedBy config userId email role since token) :
    IssuedBy config userId email role exchange.second exchange.token ∧
      exchange.second ≤ lastSecond := by
  induction before generalizing since tokens with
  | nil =>
    cases chain with
    | cons held later onClock others => exact ⟨(issued _ held).later later, onClock⟩
  | cons earlier rest ih =>
    cases chain with
    | cons held later onClock others =>
      exact ih others (circulating_issued issued held later onClock)

/-- Exchanges keep the identity along every chain. An exchange succeeds exactly up to the last second of
the token that is handed in. Behind that it fails because the token is too old, and nothing new comes
into circulation. A new token is accepted in the second of its issue, and its claims are those of the
one whom the first token was issued for. -/
theorem refreshing_keeps_identity {issuedAt : Nat} {first : String}
    (starts : StartsWith config issuedAt userId email role first) (onClock : issuedAt ≤ lastSecond)
    {before after : List Exchange} {exchange : Exchange}
    (chain : Chain config issuedAt [first] (before ++ exchange :: after)) :
    let tokens := before.foldl (circulating config) [first]
    let now := exchange.second
    let result := refreshAccess config now exchange.token
    ∃ claims, peekClaims exchange.token = .ok claims ∧
      ((∃ fresh, result = .ok fresh) ↔ now ≤ claims.expiresAt) ∧
      (claims.expiresAt < now →
        result = .error .expired ∧ circulating config tokens exchange = tokens) ∧
      ∀ fresh, result = .ok fresh → circulating config tokens exchange = tokens ++ [fresh] ∧
        validate config now fresh = .ok ⟨userId, email, role, config.issuer, userId,
          [config.audience], expiry now config.accessLifetime, now, now⟩ := by
  intro tokens now result
  have all_issued : ∀ token ∈ [first], IssuedBy config userId email role issuedAt token := by
    intro token member
    rw [List.mem_singleton.mp member]
    exact starts.issued onClock
  obtain ⟨⟨mintedAt, lifetime, started, known, same⟩, still⟩ := chain.issued all_issued
  have exchanged : result = if now ≤ expiry mintedAt lifetime then
      .ok (issueAccess config now userId email role) else .error .expired := by
    unfold result
    rw [same]
    exact refresh_issued known started
  refine ⟨_, by rw [same]; exact peek_issued known, ?_, fun late => ?_, fun fresh minted => ?_⟩
  · rw [exchanged]
    by_cases timely : now ≤ expiry mintedAt lifetime
    · simp [timely]
    · simp [timely]
  · have expired : result = .error .expired := exchanged.trans (if_neg (Int.not_le.mpr late))
    exact ⟨expired, circulating_refused expired⟩
  · refine ⟨circulating_minted minted, ?_⟩
    have own : fresh = issueAccess config now userId email role := by
      rw [exchanged] at minted
      split at minted
      · exact (Except.ok.inj minted).symm
      · cases minted
    have notOver : ¬ expiry now config.accessLifetime < now := by
      simp only [expiry, lastSecond] at still ⊢
      omega
    rw [own, issueAccess, validate_issued config userId email role _ still, if_neg notOver,
      if_neg (Nat.lt_irrefl _)]

/-- A refresh token is exchanged, and the token it was exchanged for once more, in its last second. -/
theorem refreshing_keeps_identity_twice :
    let config : TokenConfig := ⟨"issuer", "audience", "secret", 60, 3600⟩
    let first := issueRefresh config (1700000000 : Nat) "user" "u@example" "admin"
    let second := issueAccess config (1700000900 : Nat) "user" "u@example" "admin"
    let third := issueAccess config (1700000960 : Nat) "user" "u@example" "admin"
    let exchanges : List Exchange := [⟨1700000900, first⟩, ⟨1700000960, second⟩]
    Chain config 1700000000 [first] exchanges ∧
      refreshAccess config (1700000960 : Nat) second = .ok third ∧
      validate config (1700000960 : Nat) third = .ok ⟨"user", "u@example", "admin", "issuer", "user",
        ["audience"], 1700001020, (1700000960 : Nat), (1700000960 : Nat)⟩ := by
  intro config first second third exchanges
  have onClock (second : Nat) (soon : second ≤ 1700000960) : (second : Int) ≤ lastSecond := by
    unfold lastSecond
    omega
  have exchanged : refreshAccess config (1700000900 : Nat) first = .ok second :=
    (refresh_issued (onClock 1700000000 (by decide)) (by decide)).trans (if_pos (by decide))
  have again : refreshAccess config (1700000960 : Nat) second = .ok third :=
    (refresh_issued (onClock 1700000900 (by decide)) (by decide)).trans (if_pos (by decide))
  have starts : StartsWith config 1700000000 "user" "u@example" "admin" first := .refresh
  have ends : expiry (1700000960 : Nat) config.accessLifetime = 1700001020 := by decide
  clear_value first second third
  have brought : circulating config [first] ⟨1700000900, first⟩ = [first] ++ [second] :=
    circulating_minted exchanged
  have held : second ∈ circulating config [first] ⟨1700000900, first⟩ := by
    rw [brought]
    exact List.mem_append_right _ (List.mem_singleton_self _)
  have sooner : 1700000000 ≤ 1700000900 := by decide
  have later : 1700000900 ≤ 1700000960 := by decide
  have last : Chain config 1700000900 (circulating config [first] ⟨1700000900, first⟩)
      [⟨1700000960, second⟩] := .cons held later (onClock _ (Nat.le_refl _)) .nil
  have chain : Chain config 1700000000 [first]
      ([⟨1700000900, first⟩] ++ ⟨1700000960, second⟩ :: []) :=
    .cons (List.mem_singleton_self _) sooner (onClock _ later) last
  obtain ⟨_, _, _, _, minted⟩ := refreshing_keeps_identity starts (onClock _ (by decide)) chain
  have validated := (minted third again).2
  rw [ends] at validated
  exact ⟨chain, again, validated⟩

end Gatehouse.Token
