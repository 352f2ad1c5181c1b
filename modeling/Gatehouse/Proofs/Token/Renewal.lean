import Gatehouse.Proofs.Json.Agreement
import Gatehouse.Proofs.Token.RoundTrip

/-! What a token is exchanged for. The times of claims that have been read are those of signed words of 64
bits, and an accepted token is not past its end. So the present is a time that a token can state, and the
token that is issued then is accepted at once, for whom the exchanged one names. -/
namespace Gatehouse
open Json Json.Decoder

/-! ## Times that are read -/

namespace Json.Decoder

variable {σ α : Type} {depth : Nat} {c after : Cursor}

theorem integer_accepted {expected : String} {accept : Int → Option α} {a : α}
    (read : integer expected accept depth c = .ok (a, after)) : ∃ n, accept n = some a := by
  unfold integer withFirst at read
  split at read
  · dsimp only at read
    split at read
    · obtain ⟨⟨n, behind⟩, _, read⟩ := bind_ok_iff.mp read
      cases n with
      | unsigned k =>
        dsimp only at read
        split at read
        · rename_i value accepted
          cases read
          exact ⟨_, accepted⟩
        · cases read
      | negative k =>
        dsimp only at read
        split at read
        · rename_i value accepted
          cases read
          exact ⟨_, accepted⟩
        · cases read
      | floating k => cases read
    · exact absurd read mismatch_fails
  · cases read

theorem int64_fits {n : Int} (read : int64 depth c = .ok (n, after)) :
    -2 ^ 63 ≤ n ∧ n < 2 ^ 63 := by
  obtain ⟨k, accepted⟩ := integer_accepted read
  split at accepted
  · cases accepted
    omega
  · cases accepted

/-- A required field keeps what every value of it keeps. -/
theorem required_keeps {holds : σ → Prop} {name : String} {value : Decoder α} {set : α → σ → σ}
    (keeps : ∀ depth c a after, value depth c = .ok (a, after) → ∀ record, holds record →
      holds (set a record)) :
    ∀ depth c put after, (Field.required name value set).read depth c = .ok (put, after) →
      ∀ record, holds record → holds (put record) := by
  intro depth c put after read
  obtain ⟨⟨a, behind⟩, value_read, same⟩ := bind_ok_iff.mp read
  cases same
  exact keeps depth c a after value_read

end Json.Decoder

/-- The times of claims that have been read fit signed words of 64 bits. -/
theorem Claims.read_timely {document : Bytes} {claims : Claims}
    (read : run (record Claims.shape) document = .ok claims) : claims.Timely := by
  obtain ⟨after, started⟩ := run_ok read
  refine record_keeps rfl ⟨by decide, by decide, by decide⟩ ?_ started
  intro field member
  simp only [Claims.shape, List.mem_cons, List.not_mem_nil, or_false] at member
  rcases member with rfl | rfl | rfl | rfl | rfl | rfl | rfl | rfl | rfl
  · exact required_keeps fun _ _ _ _ _ _ held => ⟨held.1, held.2, held.3⟩
  · exact required_keeps fun _ _ _ _ _ _ held => ⟨held.1, held.2, held.3⟩
  · exact required_keeps fun _ _ _ _ _ _ held => ⟨held.1, held.2, held.3⟩
  · exact required_keeps fun _ _ _ _ _ _ held => ⟨held.1, held.2, held.3⟩
  · exact required_keeps fun _ _ _ _ _ _ held => ⟨held.1, held.2, held.3⟩
  · exact required_keeps fun _ _ _ _ _ _ held => ⟨held.1, held.2, held.3⟩
  · exact required_keeps fun _ _ _ _ time _ held => ⟨int64_fits time, held.2, held.3⟩
  · exact required_keeps fun _ _ _ _ time _ held => ⟨held.1, int64_fits time, held.3⟩
  · exact required_keeps fun _ _ _ _ time _ held => ⟨held.1, held.2, int64_fits time⟩

namespace Token

variable {config : TokenConfig} {token : String} {claims : Claims}

/-- While some token is accepted it is a time that a token can state. -/
theorem accepted_on_clock {now : Int} (accepted : validate config now token = .ok claims) :
    now ≤ lastSecond := by
  obtain ⟨header, payload, _, acceptable⟩ := validate_ok_iff.mp accepted
  have timely := (Claims.read_timely acceptable.payloadRead).expiresAt
  have checks := acceptable.checks
  unfold checkClaims at checks
  split_ifs at checks with absent expired early foreign elsewhere
  unfold lastSecond
  omega

theorem refresh_ok_iff {now : Int} {fresh : String} :
    refreshAccess config now token = .ok fresh ↔
      ∃ claims, validate config now token = .ok claims ∧
        fresh = issueAccess config now claims.userId claims.email claims.role := by
  unfold refreshAccess
  rw [bind_ok_iff]
  refine exists_congr fun claims => and_congr_right fun _ => ?_
  exact ⟨fun same => (Except.ok.inj same).symm, fun same => congrArg Except.ok same.symm⟩

theorem refresh_error_iff {now : Int} {error : TokenError} :
    refreshAccess config now token = .error error ↔ validate config now token = .error error := by
  unfold refreshAccess
  rw [bind_error_iff]
  constructor
  · rintro (refused | ⟨claims, _, issued⟩)
    · exact refused
    · cases issued
  · exact .inl

/-- What a token is exchanged for is accepted in the same second, for whom the token names. -/
theorem renewed_accepted {now : Int} (since1970 : 0 ≤ now)
    (accepted : validate config now token = .ok claims) :
    validate config now (issueAccess config now claims.userId claims.email claims.role) =
      .ok ⟨claims.userId, claims.email, claims.role, config.issuer, claims.userId,
        [config.audience], min (now + config.accessLifetime) lastSecond, now, now⟩ := by
  have onClock := accepted_on_clock accepted
  obtain ⟨second, rfl⟩ := Int.eq_ofNat_of_zero_le since1970
  have notOver : ¬ expiry second config.accessLifetime < second := by
    simp only [expiry, lastSecond] at onClock ⊢
    omega
  rw [issueAccess, validate_issued config _ _ _ _ onClock, if_neg notOver,
    if_neg (Nat.lt_irrefl second), expiry]

end Token
end Gatehouse
