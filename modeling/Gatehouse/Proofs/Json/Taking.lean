import Gatehouse.Proofs.Json.TreeValues

/-!
What a decoder takes a tree for. Every decoder of the configuration is definite: it makes the same of
all texts of a tree. So what one text was read as is known of the tree itself.
-/
namespace Gatehouse.Json
open Cursor

namespace Tree

/-- There is a text of the tree. -/
def IsWritable (tree : Tree) : Prop := ∃ text, tree.Writes text

theorem Stands.writable {tree : Tree} {bytes rest : Bytes} (stands : tree.Stands bytes rest) :
    tree.IsWritable := by
  obtain ⟨-, text, -, -, writes, -⟩ := stands
  exact ⟨text, writes⟩

theorem WritesDocument.writable {tree : Tree} {document : Bytes}
    (writes : tree.WritesDocument document) : tree.IsWritable := by
  obtain ⟨_, text, _, -, -, -, written⟩ := writes
  exact ⟨text, written⟩

theorem IsWritable.stands {tree : Tree} (writable : tree.IsWritable) :
    ∃ c : Cursor, tree.Stands c.rest [] := by
  obtain ⟨text, writes⟩ := writable
  exact ⟨start text, writes.stands (by simp [start]) ended_nil⟩

theorem IsWritable.members {members : List (List Piece × Tree)}
    (writable : (Tree.object members).IsWritable) : ∀ member ∈ members, member.2.IsWritable := by
  obtain ⟨text, writes⟩ := writable
  cases writes with
  | object blank spaced formed each => exact List.forall_mem_map.mpr fun slot held => ⟨_, each slot held⟩

theorem IsWritable.items {items : List Tree} (writable : (Tree.list items).IsWritable) :
    ∀ item ∈ items, item.IsWritable := by
  obtain ⟨text, writes⟩ := writable
  cases writes with
  | list blank spaced each => exact List.forall_mem_map.mpr fun slot held => ⟨_, each slot held⟩

end Tree

namespace Decoder
open Json.Tree

variable {α β σ τ : Type} {c : Cursor} {rest : Bytes}

/-! ## Definite decoders -/

/-- What the decoder makes of a tree is the same for all its texts. -/
def Definite (decoder : Decoder α) : Prop :=
  ∀ depth tree, ∃ value, Makes decoder depth tree value

/-- Some text of the tree is read as that value. -/
def Takes (decoder : Decoder α) (tree : Tree) (value : α) : Prop :=
  ∃ depth, ∃ (c : Cursor) (rest : Bytes) (after : Cursor),
    tree.Stands c.rest rest ∧ decoder depth c = .ok (value, after)

variable {decoder : Decoder α} {tree : Tree} {value : α}

theorem Takes.writable (takes : Takes decoder tree value) : tree.IsWritable := by
  obtain ⟨_, _, _, _, stands, -⟩ := takes
  exact stands.writable

/-- What one text is read as, the tree is. -/
theorem Definite.makes (definite : Definite decoder) {depth : Nat} {after : Cursor}
    (stands : tree.Stands c.rest rest) (read : decoder depth c = .ok (value, after)) :
    Makes decoder depth tree (some value) := by
  obtain ⟨made, makes⟩ := definite depth tree
  exact answers_read (makes c rest stands) read ▸ makes

theorem Takes.makes (definite : Definite decoder) (takes : Takes decoder tree value) :
    ∃ depth, Makes decoder depth tree (some value) := by
  obtain ⟨depth, c, rest, after, stands, read⟩ := takes
  exact ⟨depth, definite.makes stands read⟩

theorem Makes.takes {depth : Nat} (makes : Makes decoder depth tree (some value))
    (writable : tree.IsWritable) : Takes decoder tree value := by
  obtain ⟨c, stands⟩ := writable.stands
  obtain ⟨after, -, read⟩ := makes c [] stands
  exact ⟨depth, c, [], after, stands, read⟩

/-- What the text of a tree alone is read as. -/
theorem Takes.of_text {depth : Nat} {text : Bytes} (writes : tree.Writes text)
    (read : (decoder depth (start text)).toOption.map Prod.fst = some value) :
    Takes decoder tree value := by
  obtain ⟨⟨made, after⟩, whole, rfl⟩ := Option.map_eq_some_iff.mp read
  exact ⟨depth, start text, [], after, writes.stands (by simp [start]) ended_nil, to_option_iff.mp whole⟩

/-- A document is read if something is made of its tree. -/
theorem document_iff {document : Bytes} (definite : Definite decoder)
    (writes : tree.WritesDocument document) :
    run decoder document = .ok value ↔ Makes decoder depthLimit tree (some value) := by
  obtain ⟨made, makes⟩ := definite depthLimit tree
  have whole := document_makes makes writes
  constructor
  · intro ran
    rw [← to_option_iff.mpr ran, whole]
    exact makes
  · intro made
    exact to_option_iff.mp (document_makes made writes)

/-- A tree that has a text is one thing to a decoder. -/
theorem makes_unique {depth : Nat} {first second : Option α} (writable : tree.IsWritable)
    (one : Makes decoder depth tree first) (other : Makes decoder depth tree second) :
    first = second := by
  obtain ⟨c, stands⟩ := writable.stands
  exact answers_unique (one c [] stands) (other c [] stands)

/-- What a tree is taken for is what it says, if that is what the decoder makes of it. -/
theorem Takes.of_makes {read : Tree → Option α} (takes : Takes decoder tree value)
    (makes : ∀ depth, Makes decoder depth tree (read tree)) : read tree = some value := by
  obtain ⟨depth, c, rest, after, stands, taken⟩ := takes
  exact answers_read (makes depth c rest stands) taken

theorem text_definite (expected : String) : Definite (textAs expected) :=
  fun depth tree => ⟨_, text_makes expected depth tree⟩

theorem bool_definite : Definite bool := fun depth tree => ⟨_, bool_makes depth tree⟩

theorem nat_definite (expected : String) {limit : Nat} (fits : limit < 2 ^ 64) :
    Definite (natUpTo expected limit) := fun depth tree => ⟨_, nat_makes expected fits depth tree⟩

theorem optional_definite (definite : Definite decoder) : Definite (optional decoder) := by
  intro depth tree
  choose read makes using definite depth
  exact ⟨_, optional_makes tree (makes tree)⟩

theorem choice_definite (known : List (String × α)) : Definite (choice known) :=
  fun depth tree => ⟨_, choice_makes known depth tree⟩

private theorem closing_shallow {close : Cursor → Option Cause × Cursor} {inner : Decoder α}
    {depth : Nat} (shallow : depth < 2) :
    Answers none rest (closing close (enter inner depth c)) := by
  obtain ⟨stop, refused⟩ : ∃ stop, enter inner depth c = .error stop := enter_shallow shallow
  rw [refused]
  exact closing_refused stop

theorem list_shallow (item : Decoder α) {depth : Nat} (shallow : depth < 2) (tree : Tree) :
    Makes (list item) depth tree none := by
  intro c rest stands
  obtain ⟨b, more, start, -, peeked, -⟩ := stands.peeked
  rw [list, peeked_first peeked]
  split
  · exact closing_shallow shallow
  · exact mismatched

theorem list_definite (definite : Definite decoder) : Definite (list decoder) := by
  intro depth tree
  rcases Nat.lt_or_ge depth 2 with shallow | deep
  · exact ⟨none, list_shallow decoder shallow tree⟩
  · obtain ⟨deeper, rfl⟩ := Nat.exists_eq_add_of_le' deep
    choose read makes using definite (deeper + 1)
    exact ⟨_, list_makes makes tree⟩

theorem field_definite (name : String) (definite : Definite decoder) (set : α → σ → σ) :
    Definite (Field.optional name decoder set).read := by
  intro depth tree
  obtain ⟨value, makes⟩ := definite depth tree
  exact ⟨_, fun c rest stands => answers_map set (makes c rest stands)⟩

/-- Every field may be absent and is definite. -/
structure Shape.IsSection (shape : Shape σ) : Prop where
  definite : ∀ field ∈ shape.fields, Definite field.read
  mayMiss : ∀ field ∈ shape.fields, field.isRequired = false

theorem record_shallow (shape : Shape σ) {depth : Nat} (shallow : depth < 2) (tree : Tree) :
    Makes (record shape) depth tree none := by
  intro c rest stands
  obtain ⟨b, more, start, -, peeked, -⟩ := stands.peeked
  rw [record, peeked_first peeked]
  split
  · exact closing_shallow shallow
  · split
    · exact closing_shallow shallow
    · exact mismatched

theorem record_definite {shape : Shape σ} (sound : shape.IsSection) : Definite (record shape) := by
  intro depth tree
  rcases Nat.lt_or_ge depth 2 with shallow | deep
  · exact ⟨none, record_shallow shape shallow tree⟩
  · obtain ⟨deeper, rfl⟩ := Nat.exists_eq_add_of_le' deep
    choose! reads makes using fun field held tree => sound.definite field held (deeper + 1) tree
    cases tree with
    | object members => exact ⟨_, record_makes makes sound.mayMiss members⟩
    | list items => exact ⟨_, record_list_makes makes items⟩
    | _ => exact ⟨none, record_other (by simp) (by simp)⟩

theorem open_record_shallow (shape : Shape σ)
    (finish : σ → List (String × Value) → Except Cause τ) {depth : Nat} (shallow : depth < 2)
    (tree : Tree) : Makes (openRecord shape finish) depth tree none := by
  intro c rest stands
  obtain ⟨b, more, start, -, peeked, -⟩ := stands.peeked
  rw [openRecord, peeked_first peeked]
  split
  · exact closing_shallow shallow
  · exact mismatched

theorem open_record_definite {shape : Shape σ} (sound : shape.IsSection)
    (finish : σ → List (String × Value) → Except Cause τ) : Definite (openRecord shape finish) := by
  intro depth tree
  rcases Nat.lt_or_ge depth 2 with shallow | deep
  · exact ⟨none, open_record_shallow shape finish shallow tree⟩
  · obtain ⟨deeper, rfl⟩ := Nat.exists_eq_add_of_le' deep
    choose! reads makes using fun field held tree => sound.definite field held (deeper + 1) tree
    cases tree with
    | object members =>
      exact ⟨_, open_record_makes makes (any_makes (deeper + 1)) sound.mayMiss members⟩
    | _ => exact ⟨none, open_record_other (by simp)⟩

/-! ## What a tree is taken for -/

theorem text_told {expected text : String} (takes : Takes (textAs expected) tree text) :
    tree.text? = some text := takes.of_makes fun depth => text_makes expected depth tree

theorem bool_told {on : Bool} (takes : Takes bool tree on) : tree.bool? = some on :=
  takes.of_makes fun depth => bool_makes depth tree

theorem nat_told {expected : String} {limit n : Nat} (fits : limit < 2 ^ 64)
    (takes : Takes (natUpTo expected limit) tree n) : tree.nat? = some n := by
  obtain ⟨depth, c, rest, after, stands, taken⟩ := takes
  have made := answers_read (nat_makes expected fits depth tree c rest stands) taken
  exact (Option.filter_eq_some_iff.mp made).1

theorem optional_told {read : Tree → Option α} {value : Option α}
    (makes : ∀ depth tree, Makes decoder depth tree (read tree))
    (takes : Takes (optional decoder) tree value) : tree.orNull? read = some value :=
  takes.of_makes fun depth => optional_makes tree (makes depth tree)

theorem list_told {read : Tree → Option α} {values : List α}
    (makes : ∀ depth tree, Makes decoder depth tree (read tree))
    (takes : Takes (list decoder) tree values) : tree.items? read = some values := by
  obtain ⟨depth, c, rest, after, stands, taken⟩ := takes
  rcases Nat.lt_or_ge depth 2 with shallow | deep
  · cases answers_read (list_shallow decoder shallow tree c rest stands) taken
  · obtain ⟨deeper, rfl⟩ := Nat.exists_eq_add_of_le' deep
    exact answers_read (list_makes (makes (deeper + 1)) tree c rest stands) taken

theorem choice_told {known : List (String × α)} (takes : Takes (choice known) tree value) :
    (tree.name?.bind fun name => known.lookup name) = some value := by
  obtain ⟨depth, c, rest, after, stands, taken⟩ := takes
  have made := answers_read (choice_makes known depth tree c rest stands) taken
  split at made
  · cases tree with
    | text pieces => exact made
    | _ => cases made
  · exact made

end Decoder
end Gatehouse.Json
