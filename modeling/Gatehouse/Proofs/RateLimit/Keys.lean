import Gatehouse.Proofs.Http.Received
import Gatehouse.RateLimit.Scope

/-! Which requests share a counter. A key joins its parts with colons, and colons inside a part are not
marked. What a key starts with tells the scopes apart, and one client from another. The key of an
endpoint has two parts more and can be cut in more than one place: a request may announce an address that
takes in the method and the start of the path of another request. That is the only way in which requests
that are to be counted apart come to the same counter. -/
namespace Gatehouse.RateLimit

/-- Requests that belong to the same counter: they have in common what the scope counts by. -/
def CountedAlike (scope other : Scope) (first second : Request) : Prop :=
  scope = other ∧
    match scope with
    | .global => True
    | .client => first.clientAddress = second.clientAddress
    | .endpoint => first.clientAddress = second.clientAddress ∧ first.method = second.method ∧
        first.path = second.path

/-- The second request announces an address that goes on, behind the address of the first, with the
method of the first and the front of its path. What is left of that path is the method and the path of the
second. -/
def Overlaps (first second : Request) : Prop :=
  ∃ address front, first.clientAddress = some address ∧
    clientAddress second.headers none =
      some (address ++ ":" ++ first.method ++ ":" ++ front) ∧
    first.path = front ++ ":" ++ second.method ++ ":" ++ second.path

/-! ## Texts with colons -/

/-- A text is cut at its first colon in one way only. -/
private theorem cut_at_colon {front other behind rest : List Char} (free : ':' ∉ front)
    (also_free : ':' ∉ other) (same : front ++ ':' :: behind = other ++ ':' :: rest) :
    front = other ∧ behind = rest := by
  rcases List.append_eq_append_iff.mp same with ⟨more, longer, left⟩ | ⟨more, longer, left⟩
  · cases more with
    | nil =>
      cases left
      exact ⟨(longer.trans (List.append_nil front)).symm, rfl⟩
    | cons c more =>
      cases left
      rw [longer] at also_free
      exact absurd (List.mem_append_right front List.mem_cons_self) also_free
  · cases more with
    | nil =>
      cases left
      exact ⟨longer.trans (List.append_nil other), rfl⟩
    | cons c more =>
      cases left
      rw [longer] at free
      exact absurd (List.mem_append_right other List.mem_cons_self) free

/-- A method and a path, read from one place and from another one further on. -/
private theorem method_shifted {shift method path own rest : List Char} (free : ':' ∉ method)
    (own_free : ':' ∉ own)
    (same : ':' :: (method ++ ':' :: path) = shift ++ ':' :: (own ++ ':' :: rest)) :
    (shift = [] ∧ method = own ∧ path = rest) ∨
      (shift = ':' :: method ∧ path = own ++ ':' :: rest) ∨
      ∃ front, shift = ':' :: (method ++ ':' :: front) ∧
        path = front ++ ':' :: (own ++ ':' :: rest) := by
  rw [← List.cons_append] at same
  rcases List.append_eq_append_iff.mp same with ⟨more, longer, left⟩ | ⟨more, shorter, left⟩
  · right
    cases more with
    | nil =>
      cases left
      exact .inl ⟨longer.trans (List.append_nil _), rfl⟩
    | cons c front =>
      cases left
      exact .inr ⟨front, longer, rfl⟩
  · cases more with
    | nil =>
      cases left
      exact .inr (.inl ⟨(shorter.trans (List.append_nil shift)).symm, rfl⟩)
    | cons c more =>
      rw [List.cons_append, List.cons.injEq] at left
      obtain ⟨rfl, left⟩ := left
      cases shift with
      | nil =>
        cases shorter
        obtain ⟨methods, paths⟩ := cut_at_colon own_free free left
        exact .inl ⟨rfl, methods.symm, paths.symm⟩
      | cons first shift =>
        -- the second method would begin inside the first one
        rw [List.cons_append, List.cons.injEq] at shorter
        rw [shorter.2] at free
        exact absurd (List.mem_append_right shift List.mem_cons_self) free

/-! ## Keys of endpoints -/

private theorem joined_chars (front address method path : String) :
    (front ++ address ++ ":" ++ method ++ ":" ++ path).toList =
      front.toList ++ (address.toList ++ ':' :: (method.toList ++ ':' :: path.toList)) := by
  have colon : ":".toList = [':'] := rfl
  simp only [String.toList_append, colon, List.append_assoc, List.cons_append, List.nil_append]

variable {first second : Request}

/-- No path is a method with a colon behind it. -/
private theorem path_not_method {rest : List Char} (received : first.Received)
    (other : second.Received) : first.path.toList ≠ second.method.toList ++ ':' :: rest := by
  intro same
  have colon : ':' ∈ first.path.toList := by
    rw [same]
    exact List.mem_append_right _ List.mem_cons_self
  obtain ⟨behind, slash⟩ := received.path_slash colon
  obtain ⟨c, more, written, token⟩ := HttpToken.token_head other.method
  rw [slash, written] at same
  cases same
  rw [HttpToken.slash_not_token] at token
  cases token

/-- Where the address of the second request goes on behind that of the first, the rest of their keys is
the same only if the requests overlap. -/
private theorem overlaps_of_longer {address longer : String} {shift : List Char}
    (received : first.Received) (also_received : second.Received)
    (counts : first.clientAddress = some address) (also_counts : second.clientAddress = some longer)
    (goes_on : longer.toList = address.toList ++ shift)
    (same : ':' :: (first.method.toList ++ ':' :: first.path.toList) =
      shift ++ ':' :: (second.method.toList ++ ':' :: second.path.toList)) :
    (address = longer ∧ first.method = second.method ∧ first.path = second.path) ∨
      Overlaps first second := by
  rcases method_shifted received.method_no_colon also_received.method_no_colon same with
    ⟨rfl, methods, paths⟩ | ⟨_, path⟩ | ⟨front, rfl, path⟩
  · left
    rw [List.append_nil] at goes_on
    exact ⟨(String.toList_inj.mp goes_on).symm, String.toList_inj.mp methods,
      String.toList_inj.mp paths⟩
  · exact absurd path (path_not_method received also_received)
  · right
    have whole : longer = address ++ ":" ++ first.method ++ ":" ++ String.ofList front := by
      rw [← String.toList_inj, goes_on]
      simp [String.toList_append]
    have slash : '/' ∈ longer.toList := by
      have colon : ':' ∈ first.path.toList := by
        rw [path]
        exact List.mem_append_right front List.mem_cons_self
      obtain ⟨behind, starts⟩ := received.path_slash colon
      rw [path] at starts
      cases front with
      | nil => cases starts
      | cons c front =>
        cases starts
        rw [goes_on]
        simp
    refine ⟨address, String.ofList front, counts, ?_, ?_⟩
    · rw [← whole]
      exact announced_of_slash also_counts slash
    · rw [← String.toList_inj, path]
      simp [String.toList_append]

/-- Only paths with a colon in them are overlapped. -/
theorem Overlaps.path_colon (overlaps : Overlaps first second) : ':' ∈ first.path.toList := by
  obtain ⟨_, front, _, _, path⟩ := overlaps
  simp [path]

/-- Requests that overlap have their parts joined to the same text. -/
private theorem Overlaps.joined_same {prior address other : String} (overlaps : Overlaps first second)
    (counts : first.clientAddress = some address) (also_counts : second.clientAddress = some other) :
    prior ++ address ++ ":" ++ first.method ++ ":" ++ first.path =
      prior ++ other ++ ":" ++ second.method ++ ":" ++ second.path := by
  obtain ⟨own, front, own_counts, announced, path⟩ := overlaps
  have same_own : own = address := Option.some.inj (own_counts.symm.trans counts)
  have whole : other = own ++ ":" ++ first.method ++ ":" ++ front := by
    have known : second.clientAddress = some (own ++ ":" ++ first.method ++ ":" ++ front) := by
      rw [Request.clientAddress, client_address_or, announced, Option.some_or]
    exact Option.some.inj (also_counts.symm.trans known)
  rw [whole, path, same_own]
  simp only [String.append_assoc]

/-- What is joined behind the same front is cut alike, or one of the requests overlaps the other. -/
private theorem joined_same_iff {front address other : String} (received : first.Received)
    (also_received : second.Received) (counts : first.clientAddress = some address)
    (also_counts : second.clientAddress = some other) :
    front ++ address ++ ":" ++ first.method ++ ":" ++ first.path =
        front ++ other ++ ":" ++ second.method ++ ":" ++ second.path ↔
      (address = other ∧ first.method = second.method ∧ first.path = second.path) ∨
        Overlaps first second ∨ Overlaps second first := by
  constructor
  · intro same
    have parts : address.toList ++ ':' :: (first.method.toList ++ ':' :: first.path.toList) =
        other.toList ++ ':' :: (second.method.toList ++ ':' :: second.path.toList) := by
      have texts := congrArg String.toList same
      rw [joined_chars, joined_chars] at texts
      exact List.append_cancel_left texts
    rcases List.append_eq_append_iff.mp parts with ⟨shift, longer, left⟩ | ⟨shift, longer, left⟩
    · rcases overlaps_of_longer received also_received counts also_counts longer left with
        alike | overlaps
      · exact .inl alike
      · exact .inr (.inl overlaps)
    · rcases overlaps_of_longer also_received received also_counts counts longer left with
        ⟨addresses, methods, paths⟩ | overlaps
      · exact .inl ⟨addresses.symm, methods.symm, paths.symm⟩
      · exact .inr (.inr overlaps)
  · rintro (⟨rfl, methods, paths⟩ | overlaps | overlaps)
    · rw [methods, paths]
    · exact overlaps.joined_same counts also_counts
    · exact (overlaps.joined_same also_counts counts).symm

/-- The key of a counter starts with the name of its scope. -/
private theorem derived_code {scope : Scope} {key : Key}
    (derived : Key.derive scope first = .ok key) :
    ∃ rest, key.text = "rate_limit:" ++ scope.code ++ rest := by
  unfold Key.derive at derived
  split at derived
  · cases derived
    exact ⟨"", rfl⟩
  · cases derived
  · rename_i address _
    cases derived
    refine ⟨":" ++ address, ?_⟩
    rw [← String.append_assoc]
    rfl
  · rename_i address _
    cases derived
    refine ⟨":" ++ address ++ ":" ++ first.method ++ ":" ++ first.path, ?_⟩
    simp only [← String.append_assoc]
    rfl

private theorem scope_of_code {scope other : Scope} {rest more : String}
    (same : "rate_limit:" ++ scope.code ++ rest = "rate_limit:" ++ other.code ++ more) :
    scope = other := by
  rw [String.append_assoc, String.append_assoc, String.append_right_inj] at same
  have heads := congrArg (fun text => text.toList.head?) same
  cases scope <;> cases other <;> simp [Scope.code, String.toList_append] at heads ⊢

/-- What is counted by the same key is counted in the same scope. -/
theorem derived_scope {scope other : Scope} {key : Key}
    (derived : Key.derive scope first = .ok key) (also_derived : Key.derive other second = .ok key) :
    scope = other := by
  obtain ⟨rest, text⟩ := derived_code derived
  obtain ⟨more, also_text⟩ := derived_code also_derived
  exact scope_of_code (text.symm.trans also_text)

/-- A key that is not for all is made for a client. -/
private theorem derived_address {scope : Scope} {key : Key}
    (derived : Key.derive scope first = .ok key) (own : scope ≠ .global) :
    ∃ address, first.clientAddress = some address := by
  cases counts : first.clientAddress with
  | none =>
    cases scope with
    | global => exact absurd rfl own
    | client =>
      simp only [Key.derive, counts] at derived
      cases derived
    | endpoint =>
      simp only [Key.derive, counts] at derived
      cases derived
  | some address => exact ⟨address, rfl⟩

/-! ## Counters that are shared -/

/-- Two requests have the same key if they belong to the same counter, or if both are counted by endpoint
and one of them overlaps the other. -/
theorem same_key_iff {scope other : Scope} {key same : Key} (received : first.Received)
    (also_received : second.Received) (derived : Key.derive scope first = .ok key)
    (also_derived : Key.derive other second = .ok same) :
    key = same ↔ CountedAlike scope other first second ∨
      (scope = .endpoint ∧ other = .endpoint ∧ (Overlaps first second ∨ Overlaps second first)) := by
  by_cases scopes : scope = other
  · subst scopes
    cases scope with
    | global =>
      have keys : key = same := (Except.ok.inj derived).symm.trans (Except.ok.inj also_derived)
      simp only [CountedAlike, keys, true_and, true_or]
    | client =>
      obtain ⟨address, counts⟩ := derived_address derived (by decide)
      obtain ⟨other, also_counts⟩ := derived_address also_derived (by decide)
      simp only [Key.derive, counts] at derived
      simp only [Key.derive, also_counts] at also_derived
      cases derived
      cases also_derived
      simp only [Key.client, Key.mk.injEq, String.append_right_inj, CountedAlike, counts, also_counts,
        Option.some.injEq, reduceCtorEq, true_and, false_and, or_false]
    | endpoint =>
      obtain ⟨address, counts⟩ := derived_address derived (by decide)
      obtain ⟨other, also_counts⟩ := derived_address also_derived (by decide)
      simp only [Key.derive, counts] at derived
      simp only [Key.derive, also_counts] at also_derived
      cases derived
      cases also_derived
      simp only [CountedAlike, counts, also_counts, Option.some.injEq, true_and]
      exact (Iff.intro (congrArg Key.text) (congrArg Key.mk)).trans
        (joined_same_iff received also_received counts also_counts)
  · constructor
    · rintro rfl
      exact absurd (derived_scope derived also_derived) scopes
    · rintro (⟨same_scope, _⟩ | ⟨rfl, rfl, _⟩)
      · exact absurd same_scope scopes
      · exact absurd rfl scopes

/-- Two endpoints of one client: no path here has a colon, so that nothing overlaps. -/
theorem same_key_iff_of_two_paths :
    let address : Headers := ⟨[("x-real-ip", [49, 46, 49, 46, 49, 46, 49])]⟩
    let first : Request := ⟨"GET", "/a", address, [], none, none, none⟩
    let second : Request := ⟨"GET", "/b", address, [], none, none, none⟩
    first.Received ∧ second.Received ∧
      ∃ key same, Key.derive .endpoint first = .ok key ∧ Key.derive .endpoint second = .ok same ∧
        key ≠ same := by
  intro address first second
  have received : first.Received := ⟨by decide +kernel, "/a", by decide +kernel⟩
  have also_received : second.Received := ⟨by decide +kernel, "/b", by decide +kernel⟩
  have derived : Key.derive .endpoint first = .ok (.endpoint "1.1.1.1" "GET" "/a") := rfl
  have also_derived : Key.derive .endpoint second = .ok (.endpoint "1.1.1.1" "GET" "/b") := rfl
  refine ⟨received, also_received, _, _, derived, also_derived, ?_⟩
  rw [Ne, same_key_iff received also_received derived also_derived]
  rintro (⟨_, _, _, paths⟩ | ⟨_, _, overlaps | overlaps⟩)
  · exact absurd paths (by decide)
  · exact absurd overlaps.path_colon (by decide)
  · exact absurd overlaps.path_colon (by decide)

/-- One request announces an address that ends in the method and the path of another, whose path goes on
with its own. They have the same key, and neither the client nor the path in common. -/
theorem endpoint_key_of_both :
    let first : Request :=
      ⟨"GET", "/a:GET:/b", ⟨[("x-real-ip", Utf8.encode "1.1.1.1")]⟩, [], none, none, none⟩
    let second : Request :=
      ⟨"GET", "/b", ⟨[("x-real-ip", Utf8.encode "1.1.1.1:GET:/a")]⟩, [], none, none, none⟩
    first.Received ∧ second.Received ∧
      (∃ key, Key.derive .endpoint first = .ok key ∧ Key.derive .endpoint second = .ok key) ∧
      first.clientAddress ≠ second.clientAddress ∧ first.path ≠ second.path := by
  intro first second
  have counts : first.clientAddress = some "1.1.1.1" := by decide +kernel
  have also_counts : second.clientAddress = some "1.1.1.1:GET:/a" := by decide +kernel
  refine ⟨⟨by decide +kernel, "/a:GET:/b", by decide +kernel⟩,
    ⟨by decide +kernel, "/b", by decide +kernel⟩, ⟨Key.endpoint "1.1.1.1" "GET" "/a:GET:/b", ?_, ?_⟩,
    ?_, by decide⟩
  · simp only [Key.derive, counts, first]
  · simp only [Key.derive, also_counts]
    rfl
  · rw [counts, also_counts]
    decide

end Gatehouse.RateLimit
