import Gatehouse.Proofs.Json.Skipping
import Gatehouse.Proofs.Token.Authentic

/-!
A token that was issued is read back as what was put into it. Its header and claims are written
objects, which the readers take member by member, so only the times decide whether it is accepted:
from the second of issue up to the second it expires in, both included.
-/
namespace Gatehouse
open Utf8 Json Json.Decoder

/-! ## The two documents of an issued token -/

namespace TokenHeader

/-- The field of the algorithm with other names to choose from, and any other field as it is. -/
def withKnown (known : List (String × Algorithm)) (field : Decoder.Field TokenHeader) :
    Decoder.Field TokenHeader :=
  if field.name = "alg" then
    .required "alg" (choice known) fun v h => { h with algorithm := v }
  else field

/-- Headers where these algorithms are known. -/
def knowing (known : List (String × Algorithm)) : Shape TokenHeader :=
  { shape with fields := shape.fields.map (withKnown known) }

variable {known : List (String × Algorithm)} {name : String} {algorithm : Algorithm}

theorem with_known_name (field : Decoder.Field TokenHeader) :
    (withKnown known field).name = field.name := by
  unfold withKnown
  split
  · rename_i same
    exact same.symm
  · rfl

theorem knowing_all : knowing Algorithm.names = shape := by
  simp [knowing, withKnown, shape, checked, Field.required, Field.optional]

private theorem knowing_find (known : List (String × Algorithm)) (key : String) :
    (knowing known).fields.find? (·.name == key) =
      (shape.fields.find? (·.name == key)).map (withKnown known) := by
  have names : ((fun field : Decoder.Field TokenHeader => field.name == key) ∘ withKnown known) =
      fun field => field.name == key := by
    funext field
    simp [with_known_name]
  rw [knowing, List.find?_map, names]

private def entries (name : String) (algorithm : Algorithm) : List (Entry TokenHeader) := [
  .setting "typ" (quote "JWT") (fun _ h => h) (some "JWT"),
  .setting "alg" (quote name) (fun v h => { h with algorithm := v }) algorithm]

private theorem entries_fit (found : known.lookup name = some algorithm) :
    ∀ entry ∈ entries name algorithm, entry.Fits 0 (knowing known).fields := by
  have notNull : (encode (quote "JWT")).head? ≠ some 0x6E := by
    rw [quote_bytes]
    decide
  have typ : (knowing known).fields.find? (·.name == "typ") = some (checked "typ" text) := by
    rw [knowing_find]
    rfl
  have alg : (knowing known).fields.find? (·.name == "alg") =
      some (.required "alg" (choice known) fun v h => { h with algorithm := v }) := by
    rw [knowing_find]
    rfl
  rintro entry member
  simp only [entries, List.mem_cons, List.not_mem_nil, or_false] at member
  rcases member with rfl | rfl
  · exact Entry.setting_fits typ rfl (optional_reads (text_reads "a string" "JWT") notNull)
  · exact Entry.setting_fits alg rfl (choice_reads found)

/-- The text of a header that says nothing but the name of an algorithm. -/
def textNaming (name : String) : String :=
  objectText [("typ", quote "JWT"), ("alg", quote name)]

private theorem text_of_entries (name : String) (algorithm : Algorithm) :
    textNaming name = objectText ((entries name algorithm).map Entry.member) := rfl

private theorem entries_put (name : String) (algorithm : Algorithm) :
    (entries name algorithm).foldl (fun record entry => entry.put record) (knowing known).blank =
      ⟨algorithm⟩ := rfl

private theorem required_field : ∀ field ∈ shape.fields, field.isRequired →
    field.name = "alg" := by
  simp [shape, checked, Field.required, Field.optional]

theorem naming_read (found : known.lookup name = some algorithm) :
    run (record (knowing known)) (encode (textNaming name)) = .ok ⟨algorithm⟩ := by
  have names : (entries name algorithm).map Entry.name = ["typ", "alg"] := rfl
  have complete : ∀ field ∈ (knowing known).fields, field.isRequired →
      field.name ∈ (entries name algorithm).map Entry.name := by
    intro field member required
    obtain ⟨original, held, rfl⟩ := List.mem_map.mp member
    have alg : original.name = "alg" := by
      by_contra other
      rw [withKnown, if_neg other] at required
      exact other (required_field original held required)
    rw [with_known_name, alg, names]
    decide
  have distinct : ((entries name algorithm).map Entry.name).Nodup := by
    rw [names]
    decide
  have reads := record_reads (knowing known) (entries_fit found) distinct complete
  rw [entries_put] at reads
  rw [text_of_entries name algorithm]
  exact document_reads reads (by decide)

private theorem issued_names : issued = textNaming "HS256" := rfl

/-- The header of every issued token names the algorithm it is signed with. -/
theorem issued_read : run (record shape) (encode issued) = .ok ⟨.hs256⟩ := by
  have found : Algorithm.names.lookup "HS256" = some .hs256 := rfl
  have reads := naming_read found
  rwa [knowing_all, ← issued_names] at reads

end TokenHeader

namespace Claims

variable (claims : Claims)

private def entries : List (Entry Claims) := [
  .setting "user_id" (quote claims.userId) (fun v c => { c with userId := v }) claims.userId,
  .setting "email" (quote claims.email) (fun v c => { c with email := v }) claims.email,
  .setting "role" (quote claims.role) (fun v c => { c with role := v }) claims.role,
  .setting "iss" (quote claims.issuer) (fun v c => { c with issuer := v }) claims.issuer,
  .setting "sub" (quote claims.subject) (fun v c => { c with subject := v }) claims.subject,
  .setting "aud" (array (claims.audience.map quote)) (fun v c => { c with audience := v })
    claims.audience,
  .setting "exp" (Numeral.signed claims.expiresAt) (fun v c => { c with expiresAt := v })
    claims.expiresAt,
  .setting "nbf" (Numeral.signed claims.notBefore) (fun v c => { c with notBefore := v })
    claims.notBefore,
  .setting "iat" (Numeral.signed claims.issuedAt) (fun v c => { c with issuedAt := v })
    claims.issuedAt]

/-- Times that a token can state: those of a signed word of 64 bits. -/
structure Timely : Prop where
  expiresAt : -2 ^ 63 ≤ claims.expiresAt ∧ claims.expiresAt < 2 ^ 63
  notBefore : -2 ^ 63 ≤ claims.notBefore ∧ claims.notBefore < 2 ^ 63
  issuedAt : -2 ^ 63 ≤ claims.issuedAt ∧ claims.issuedAt < 2 ^ 63

private theorem list_of_texts_reads (values : List String) :
    Reads 1 (Decoder.list text) (encode (array (values.map quote))) values := by
  have each : ∀ entry ∈ values.map fun value => (encode (quote value), value),
      Reads 0 text entry.1 entry.2 := by
    intro entry member
    obtain ⟨value, -, rfl⟩ := List.mem_map.mp member
    exact text_reads "a string" value
  simpa [array_bytes, List.map_map, Function.comp_def] using list_reads each

private theorem entries_fit (timely : claims.Timely) :
    ∀ entry ∈ entries claims, entry.Fits 1 shape.fields := by
  intro entry member
  simp only [entries, List.mem_cons, List.not_mem_nil, or_false] at member
  have string (value : String) : Reads 1 text (encode (quote value)) value :=
    (text_reads "a string" value).deeper (by decide)
  have time {n : Int} (fits : -2 ^ 63 ≤ n ∧ n < 2 ^ 63) :
      Reads 1 int64 (encode (Numeral.signed n)) n :=
    (int64_reads fits.1 fits.2).deeper (by decide)
  rcases member with rfl | rfl | rfl | rfl | rfl | rfl | rfl | rfl | rfl
  · exact Entry.setting_fits rfl rfl (string _)
  · exact Entry.setting_fits rfl rfl (string _)
  · exact Entry.setting_fits rfl rfl (string _)
  · exact Entry.setting_fits rfl rfl (string _)
  · exact Entry.setting_fits rfl rfl (string _)
  · exact Entry.setting_fits rfl rfl (list_of_texts_reads _)
  · exact Entry.setting_fits rfl rfl (time timely.expiresAt)
  · exact Entry.setting_fits rfl rfl (time timely.notBefore)
  · exact Entry.setting_fits rfl rfl (time timely.issuedAt)

private theorem json_of_entries :
    claims.toJson = objectText ((entries claims).map Entry.member) := rfl

private theorem entries_put :
    (entries claims).foldl (fun record entry => entry.put record) shape.blank = claims := by
  simp only [entries, Entry.setting, List.foldl_cons, List.foldl_nil]

/-- Claims are read back from their text, whatever characters they hold. -/
theorem json_read (timely : claims.Timely) :
    run (record shape) (encode claims.toJson) = .ok claims := by
  have reads := whole_record_reads shape (entries_fit claims timely) rfl (by decide)
  rw [entries_put] at reads
  rw [json_of_entries]
  exact document_reads reads (by decide)

/-- The text of claims is written JSON. -/
theorem json_written : Tree.IsWritten claims.toJson := by
  refine .object claims.members fun member held => ?_
  simp only [members, List.mem_cons, List.not_mem_nil, or_false] at held
  rcases held with rfl | rfl | rfl | rfl | rfl | rfl | rfl | rfl | rfl
  · exact .text _
  · exact .text _
  · exact .text _
  · exact .text _
  · exact .text _
  · refine .list _ fun item held => ?_
    obtain ⟨value, -, rfl⟩ := List.mem_map.mp held
    exact .text value
  · exact .number _
  · exact .number _
  · exact .number _

end Claims

namespace Token

/-- The second reading of an object passes over it. -/
theorem checked_members_pass (claims : Claims) :
    run checkedMembers (encode claims.toJson) = .ok () := by
  have first : (Cursor.start (encode claims.toJson)).rest = 0x7B :: _ := object_bytes _
  have whole : (Cursor.start (encode claims.toJson)).rest = encode claims.toJson ++ [] :=
    (List.append_nil _).symm
  obtain ⟨after, ended, skip⟩ := Cursor.skip_value_written claims.json_written
    (fun _ member => absurd member (Option.not_mem_none _)) whole
  refine run_of_read ?_ ended
  rw [checkedMembers, with_first first (by decide), if_neg (by decide), skip]
  rfl

/-! ## Issued tokens -/

variable (config : TokenConfig) (userId email role : String) (lifetime : Nat)

/-- A signed token is judged by the claims that were signed. -/
theorem validate_sign {claims : Claims} (timely : claims.Timely) (now : Int) :
    validate config now (sign config claims) =
      (checkClaims config now claims).map fun _ => claims :=
  validate_framed TokenHeader.issued_read (claims.json_read timely) (checked_members_pass claims)

/-- The last second of a token: that of its issue and its lifetime, or the last one there is. -/
def expiry (issuedAt lifetime : Nat) : Int := min (issuedAt + lifetime) lastSecond

variable {issuedAt : Nat}

theorem claims_issued (onClock : issuedAt ≤ lastSecond) :
    claimsFor config issuedAt userId email role lifetime =
      ⟨userId, email, role, config.issuer, userId, [config.audience], expiry issuedAt lifetime,
        issuedAt, issuedAt⟩ := by
  have saturated : min ((issuedAt : Int) + min (lifetime : Int) lastSecond) lastSecond =
      expiry issuedAt lifetime := by
    simp only [expiry, lastSecond] at onClock ⊢
    omega
  rw [claimsFor, saturated]

theorem claims_issued_timely (onClock : issuedAt ≤ lastSecond) :
    (claimsFor config issuedAt userId email role lifetime).Timely := by
  rw [claims_issued config userId email role lifetime onClock]
  simp only [lastSecond] at onClock
  constructor <;> simp only [expiry, lastSecond] <;> omega

/-- The claims of an issued token pass from the second of issue up to the last second. -/
theorem check_issued (onClock : issuedAt ≤ lastSecond) (now : Nat) :
    checkClaims config now (claimsFor config issuedAt userId email role lifetime) =
      if expiry issuedAt lifetime < now then .error .expired
      else if now < issuedAt then .error (.invalid .tooEarly) else .ok () := by
  have positive : ¬ expiry issuedAt lifetime < 0 := by
    simp only [expiry, lastSecond]
    omega
  rw [claims_issued config userId email role lifetime onClock]
  simp [checkClaims, positive]

theorem validate_issued (onClock : issuedAt ≤ lastSecond) (now : Nat) :
    validate config now (issue config issuedAt userId email role lifetime) =
      if expiry issuedAt lifetime < now then .error .expired
      else if now < issuedAt then .error (.invalid .tooEarly)
      else .ok ⟨userId, email, role, config.issuer, userId, [config.audience],
        expiry issuedAt lifetime, issuedAt, issuedAt⟩ := by
  have timely := claims_issued_timely config userId email role lifetime onClock
  rw [issue, validate_sign config timely, check_issued config userId email role lifetime onClock]
  split_ifs
  · rfl
  · rfl
  · exact congrArg Except.ok (claims_issued config userId email role lifetime onClock)

/-- An issued token is accepted from its first second up to its last one, with the claims it was
issued with; behind that it is too old, and before it is not valid yet. -/
theorem issued_token_validity (onClock : issuedAt ≤ lastSecond) (now : Nat) :
    let token := issue config issuedAt userId email role lifetime
    (issuedAt ≤ now → now ≤ expiry issuedAt lifetime →
      validate config now token = .ok ⟨userId, email, role, config.issuer, userId,
        [config.audience], expiry issuedAt lifetime, issuedAt, issuedAt⟩) ∧
    (expiry issuedAt lifetime < now → validate config now token = .error .expired) ∧
    (now < issuedAt → validate config now token = .error (.invalid .tooEarly)) := by
  intro token
  have judged := validate_issued config userId email role lifetime onClock now
  refine ⟨fun started notOver => ?_, fun late => ?_, fun early => ?_⟩
  · rw [judged, if_neg (by omega), if_neg (by omega)]
  · rw [judged, if_pos late]
  · have notOver : ¬ expiry issuedAt lifetime < now := by
      simp only [expiry, lastSecond] at onClock ⊢
      omega
    rw [judged, if_neg notOver, if_pos early]

/-- A token that is issued in the second before the last one, for longer than there is time. -/
theorem issued_token_validity_at_end :
    let config : TokenConfig := ⟨"\"issuer\"", "back\\slash", "s\x00", 60, 60⟩
    let token := issue config (9223372036854775806 : Nat) "line\nend" "é@x" "\x7f" 5
    ((9223372036854775806 : Nat) : Int) ≤ lastSecond ∧
      validate config (9223372036854775807 : Nat) token = .ok ⟨"line\nend", "é@x", "\x7f",
        "\"issuer\"", "line\nend", ["back\\slash"], 9223372036854775807, 9223372036854775806,
        9223372036854775806⟩ ∧
      validate config (9223372036854775808 : Nat) token = .error .expired ∧
      validate config (9223372036854775805 : Nat) token = .error (.invalid .tooEarly) := by
  intro config token
  have onClock : ((9223372036854775806 : Nat) : Int) ≤ lastSecond := by decide
  have judged := fun now => issued_token_validity config "line\nend" "é@x" "\x7f" 5 onClock now
  exact ⟨onClock, (judged 9223372036854775807).1 (by decide) (by decide),
    (judged 9223372036854775808).2.1 (by decide), (judged 9223372036854775805).2.2 (by decide)⟩

end Token
end Gatehouse
