import Gatehouse.Proofs.Json.Reading
import Mathlib.Data.List.Forall2

/-!
Two readings of one document. Shapes whose fields have the same names read the same members at the
same places, so whatever relates the two records after each member relates them at the end.
-/
namespace Gatehouse.Json.Decoder

variable {σ τ α β : Type}

/-- Two fields of one name that never disagree on where their value ends, and keep a relation that
knows which fields have been read. -/
structure Agree (related : List String → σ → τ → Prop) (left : Field σ) (right : Field τ) :
    Prop where
  name : left.name = right.name
  reads : ∀ (depth : Nat) (c afterLeft afterRight : Cursor) (putLeft : σ → σ) (putRight : τ → τ),
    left.read depth c = .ok (putLeft, afterLeft) → right.read depth c = .ok (putRight, afterRight) →
      afterLeft = afterRight ∧ ∀ done a b, related done a b →
        related (left.name :: done) (putLeft a) (putRight b)

variable {related : List String → σ → τ → Prop} {leftFields : List (Field σ)}
  {rightFields : List (Field τ)} {c : Cursor}

/-- A name belongs to agreeing fields of both shapes or to none of either. -/
private theorem find_agree (agree : List.Forall₂ (Agree related) leftFields rightFields)
    (key : String) :
    (leftFields.find? (·.name == key) = none ∧ rightFields.find? (·.name == key) = none) ∨
      ∃ left right, leftFields.find? (·.name == key) = some left ∧
        rightFields.find? (·.name == key) = some right ∧ left.name = key ∧
        Agree related left right := by
  induction agree with
  | nil => exact .inl ⟨rfl, rfl⟩
  | @cons left right _ _ same _ ih =>
    by_cases found : left.name = key
    · have foundRight : right.name = key := same.name ▸ found
      exact .inr ⟨left, right, by simp [found], by simp [foundRight], found, same⟩
    · have notRight : ¬ right.name = key := fun equal => found (same.name.trans equal)
      simpa [found, notRight] using ih

/-- Reading ended well inside a part. -/
theorem inside_ok_iff {segment : Segment} {outcome : Except Stop α} {a : α} :
    inside segment outcome = .ok a ↔ outcome = .ok a := by
  cases outcome with
  | ok _ => exact Iff.rfl
  | error stop => cases stop <;> simp [inside]

private theorem members_agree (agree : List.Forall₂ (Agree related) leftFields rightFields)
    {depth : Nat} {other : Cursor → Except Stop (Option Value × Cursor)} {bound : Nat}
    {seen : List String} {kept : List (String × Value)} {first : Bool} {a : σ} {b : τ}
    (begun : related seen a b) {endLeft : (σ × List String × List (String × Value)) × Cursor}
    {endRight : (τ × List String × List (String × Value)) × Cursor}
    (readLeft : recordMembers leftFields depth other bound seen kept first a c = .ok endLeft)
    (readRight : recordMembers rightFields depth other bound seen kept first b c = .ok endRight) :
    related endLeft.1.2.1 endLeft.1.1 endRight.1.1 := by
  induction bound generalizing seen kept first a b c with
  | zero => simp [recordMembers, Cursor.failHere] at readLeft
  | succ bound ih =>
    rw [recordMembers, bind_ok_iff] at readLeft readRight
    obtain ⟨next, memberLeft, readLeft⟩ := readLeft
    obtain ⟨_, memberRight, readRight⟩ := readRight
    obtain rfl := Except.ok.inj (memberLeft.symm.trans memberRight)
    cases next with
    | none =>
      cases readLeft
      cases readRight
      exact begun
    | some found =>
      obtain ⟨key, behind⟩ := found
      rcases find_agree agree key with ⟨noneLeft, noneRight⟩ |
        ⟨left, right, foundLeft, foundRight, named, same⟩
      · simp only [noneLeft, noneRight, bind_ok_iff] at readLeft readRight
        obtain ⟨colonLeft, atColon, ⟨value, ended⟩, other, readLeft⟩ := readLeft
        obtain ⟨colonRight, alsoAtColon, ⟨alsoValue, alsoEnded⟩, alsoOther, readRight⟩ := readRight
        obtain rfl := Except.ok.inj (atColon.symm.trans alsoAtColon)
        cases Except.ok.inj (other.symm.trans alsoOther)
        exact ih begun readLeft readRight
      · simp only [foundLeft, foundRight] at readLeft readRight
        split at readLeft
        · contradiction
        · rename_i unseen
          rw [if_neg unseen] at readRight
          simp only [bind_ok_iff, inside_ok_iff] at readLeft readRight
          obtain ⟨colonLeft, atColon, ⟨putLeft, endedLeft⟩, valueLeft, readLeft⟩ := readLeft
          obtain ⟨colonRight, alsoAtColon, ⟨putRight, endedRight⟩, valueRight, readRight⟩ := readRight
          obtain rfl := Except.ok.inj (atColon.symm.trans alsoAtColon)
          obtain ⟨rfl, keeps⟩ := same.reads _ _ _ _ _ _ valueLeft valueRight
          exact ih (named ▸ keeps seen a b begun) readLeft readRight

private theorem items_agree {leftShape : Shape σ} {rightShape : Shape τ}
    (longLeft : leftShape.shortLists = false) {depth index : Nat} {done : List String} {a : σ}
    {b : τ} (agree : List.Forall₂ (Agree related) leftFields rightFields)
    (begun : related done a b) {endLeft : σ × Cursor} {endRight : τ × Cursor}
    (readLeft : recordItems leftShape depth leftFields index a c = .ok endLeft)
    (readRight : recordItems rightShape depth rightFields index b c = .ok endRight) :
    ∃ all, related all endLeft.1 endRight.1 ∧ ∀ name, name ∈ done ∨
      name ∈ leftFields.map Field.name → name ∈ all := by
  induction agree generalizing index done a b c with
  | nil =>
    cases readLeft
    cases readRight
    exact ⟨done, begun, fun name member => by simpa using member⟩
  | @cons left right _ _ same _ ih =>
    rw [recordItems, bind_ok_iff] at readLeft readRight
    obtain ⟨next, itemLeft, readLeft⟩ := readLeft
    obtain ⟨_, itemRight, readRight⟩ := readRight
    obtain rfl := Except.ok.inj (itemLeft.symm.trans itemRight)
    cases next with
    | none => simp [longLeft] at readLeft
    | some start =>
      simp only [bind_ok_iff, inside_ok_iff] at readLeft readRight
      obtain ⟨⟨putLeft, endedLeft⟩, valueLeft, readLeft⟩ := readLeft
      obtain ⟨⟨putRight, endedRight⟩, valueRight, readRight⟩ := readRight
      obtain ⟨rfl, keeps⟩ := same.reads _ _ _ _ _ _ valueLeft valueRight
      obtain ⟨all, ended, contains⟩ := ih (keeps done a b begun) readLeft readRight
      refine ⟨all, ended, fun name member => contains name ?_⟩
      simp only [List.mem_cons, List.map_cons] at member ⊢
      tauto

theorem check_required_ok {fields : List (Field σ)} {seen : List String}
    (checked : checkRequired fields seen c = .ok ()) :
    ∀ field ∈ fields, field.isRequired → field.name ∈ seen := by
  intro field member required
  unfold checkRequired at checked
  split at checked
  · contradiction
  · rename_i none_missing
    simpa [required] using List.find?_eq_none.mp none_missing field member

private theorem closing_ok {close : Cursor → Option Cause × Cursor}
    {outcome : Except Stop (α × Cursor)} {ended : α × Cursor}
    (closed : closing close outcome = .ok ended) : ∃ inner, outcome = .ok inner ∧
      inner.1 = ended.1 := by
  unfold closing at closed
  split at closed
  · split at closed
    · cases closed
      exact ⟨_, rfl, rfl⟩
    · simp [Cursor.failNext, Cursor.failHere] at closed
  · contradiction
  · contradiction

private theorem enter_ok {inner : Decoder α} {depth : Nat} {ended : α × Cursor}
    (entered : enter inner depth c = .ok ended) :
    ∃ spare, depth = spare + 2 ∧ inner (spare + 1) c.next = .ok ended := by
  unfold enter at entered
  split at entered
  · exact ⟨_, rfl, entered⟩
  · simp [Cursor.failNext, Cursor.failHere] at entered

/-- Saying what was expected instead is always a refusal. -/
theorem mismatch_fails {expected : String} {a : α} : mismatch expected c ≠ .ok a := by
  intro read
  unfold mismatch at read
  simp only [Cursor.failNext, Cursor.failHere] at read
  split at read <;> try split at read
  all_goals simp [bind_ok_iff] at read

/-- Where shapes of agreeing fields both read a document, their records are related, and every
required field has been read. -/
theorem record_agree {left : Shape σ} {right : Shape τ}
    (agree : List.Forall₂ (Agree related) left.fields right.fields)
    (longLeft : left.shortLists = false) (begun : related [] left.blank right.blank) {depth : Nat}
    {endLeft : σ × Cursor} {endRight : τ × Cursor}
    (readLeft : record left depth c = .ok endLeft) (readRight : record right depth c = .ok endRight) :
    ∃ done, related done endLeft.1 endRight.1 ∧
      ∀ field ∈ left.fields, field.isRequired → field.name ∈ done := by
  unfold record withFirst at readLeft readRight
  split at readLeft
  · rename_i b start peeked
    rw [peeked] at readRight
    dsimp only at readLeft readRight
    by_cases object : b = 0x7B
    · rw [if_pos object] at readLeft readRight
      obtain ⟨innerLeft, openLeft, sameLeft⟩ := closing_ok readLeft
      obtain ⟨innerRight, openRight, sameRight⟩ := closing_ok readRight
      obtain ⟨_, rfl, membersLeft⟩ := enter_ok openLeft
      obtain ⟨_, depth, membersRight⟩ := enter_ok openRight
      cases depth
      simp only [bind_ok_iff] at membersLeft membersRight
      obtain ⟨⟨⟨a, seen, _⟩, _⟩, walkLeft, _, required, doneLeft⟩ := membersLeft
      obtain ⟨⟨⟨b, _, _⟩, _⟩, walkRight, _, _, doneRight⟩ := membersRight
      cases doneLeft
      cases doneRight
      refine ⟨seen, ?_, check_required_ok required⟩
      rw [← sameLeft, ← sameRight]
      exact members_agree agree begun walkLeft walkRight
    · rw [if_neg object] at readLeft readRight
      by_cases list : b = 0x5B
      · rw [if_pos list] at readLeft readRight
        obtain ⟨innerLeft, openLeft, sameLeft⟩ := closing_ok readLeft
        obtain ⟨innerRight, openRight, sameRight⟩ := closing_ok readRight
        obtain ⟨_, rfl, itemsLeft⟩ := enter_ok openLeft
        obtain ⟨_, depth, itemsRight⟩ := enter_ok openRight
        cases depth
        obtain ⟨all, ended, contains⟩ := items_agree longLeft agree begun itemsLeft itemsRight
        refine ⟨all, ?_, fun field member _ =>
          contains field.name (.inr (List.mem_map_of_mem member))⟩
        rw [← sameLeft, ← sameRight]
        exact ended
      · rw [if_neg list] at readLeft
        exact absurd readLeft mismatch_fails
  · simp [Cursor.failNext, Cursor.failHere] at readLeft

/-- What holds of a record that nothing has been put into, and is kept by whatever a field reads, holds of
every record that is read. -/
theorem record_keeps {holds : σ → Prop} {shape : Shape σ} (long : shape.shortLists = false)
    (begun : holds shape.blank)
    (kept : ∀ field ∈ shape.fields, ∀ depth c put after, field.read depth c = .ok (put, after) →
      ∀ record, holds record → holds (put record)) {depth : Nat} {ended : σ × Cursor}
    (read : record shape depth c = .ok ended) : holds ended.1 := by
  -- a shape agrees with itself, and of the two records that are alike one is enough
  have agree : List.Forall₂ (Agree fun _ a (_ : σ) => holds a) shape.fields shape.fields :=
    List.forall₂_same.mpr fun field member => {
      name := rfl
      reads := by
        intro depth c after other put same reads also
        cases Except.ok.inj (reads.symm.trans also)
        exact ⟨rfl, fun _ record _ held => kept field member depth c put after reads record held⟩ }
  obtain ⟨_, held, _⟩ := record_agree agree long begun read read
  exact held

/-! ## Choices -/

private theorem name_ok {known : List (String × α)} {depth : Nat} {a : α} {after : Cursor}
    (read : (do
      let (text, c) ← textAs "variant identifier" depth c
      match known.lookup text with
      | some a => return (a, c)
      | none => c.failHere (.unknownVariant text (known.map Prod.fst))) = .ok (a, after)) :
    ∃ name, textAs "variant identifier" depth c = .ok (name, after) ∧
      known.lookup name = some a := by
  obtain ⟨⟨name, behind⟩, text, found⟩ := bind_ok_iff.mp read
  cases known_name : known.lookup name with
  | none => simp [known_name, Cursor.failHere] at found
  | some value =>
    simp only [known_name] at found
    cases found
    exact ⟨name, text, known_name⟩

/-- Two choices at one place read one name. -/
theorem choice_agree {left : List (String × α)} {right : List (String × β)} {depth : Nat} {a : α}
    {b : β} {afterLeft afterRight : Cursor} (readLeft : choice left depth c = .ok (a, afterLeft))
    (readRight : choice right depth c = .ok (b, afterRight)) : afterLeft = afterRight ∧
      ∃ name, left.lookup name = some a ∧ right.lookup name = some b := by
  unfold choice at readLeft readRight
  dsimp only at readLeft readRight
  split at readLeft
  · rename_i start peeked
    rw [peeked] at readRight
    obtain ⟨name, text, foundLeft⟩ := name_ok readLeft
    obtain ⟨alsoName, alsoText, foundRight⟩ := name_ok readRight
    cases Except.ok.inj (text.symm.trans alsoText)
    exact ⟨rfl, name, foundLeft, foundRight⟩
  · rename_i start peeked
    rw [peeked] at readRight
    obtain ⟨_, rfl, memberLeft⟩ := enter_ok readLeft
    obtain ⟨_, depth, memberRight⟩ := enter_ok readRight
    cases depth
    obtain ⟨⟨_, behindLeft⟩, nameLeft, memberLeft⟩ := bind_ok_iff.mp memberLeft
    obtain ⟨⟨_, behindRight⟩, nameRight, memberRight⟩ := bind_ok_iff.mp memberRight
    obtain ⟨name, text, foundLeft⟩ := name_ok nameLeft
    obtain ⟨alsoName, alsoText, foundRight⟩ := name_ok nameRight
    cases Except.ok.inj (text.symm.trans alsoText)
    simp only [bind_ok_iff] at memberLeft memberRight
    obtain ⟨colonLeft, atColon, ⟨_, nullLeft⟩, unitLeft, memberLeft⟩ := memberLeft
    obtain ⟨colonRight, alsoAtColon, ⟨_, nullRight⟩, unitRight, memberRight⟩ := memberRight
    cases Except.ok.inj (atColon.symm.trans alsoAtColon)
    cases Except.ok.inj (unitLeft.symm.trans unitRight)
    split at memberLeft
    · rename_i closed
      rw [closed] at memberRight
      cases memberLeft
      cases memberRight
      exact ⟨rfl, name, foundLeft, foundRight⟩
    · simp [Cursor.failHere] at memberLeft
    · simp [Cursor.failHere] at memberLeft
  · simp [Cursor.failNext, Cursor.failHere] at readLeft
  · simp [Cursor.failNext, Cursor.failHere] at readLeft

/-- A document that is read was read from its start. -/
theorem run_ok {decoder : Decoder α} {document : Bytes} {a : α}
    (read : run decoder document = .ok a) :
    ∃ after, decoder depthLimit (Cursor.start document) = .ok (a, after) := by
  unfold run at read
  dsimp only at read
  split at read
  · rename_i outcome
    cases read
    obtain ⟨⟨value, after⟩, started, ended⟩ := bind_ok_iff.mp outcome
    dsimp only at ended
    split at ended
    · cases ended
      exact ⟨after, started⟩
    · simp [Cursor.failNext, Cursor.failHere] at ended
  · contradiction
  · contradiction

end Gatehouse.Json.Decoder
