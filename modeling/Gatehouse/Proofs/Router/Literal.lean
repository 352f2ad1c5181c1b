import Gatehouse.Proofs.Router.Handlers

/-! Templates without parameters. Such a template stands for one path only, and if there is no brace in
this path it is the text of the template. So a path that has a template of its own finds the route of
this template, and no other path does. -/
namespace Gatehouse.Router

/-! ## Templates -/

theorem Template.text_of_checked {text : String} {template : Template}
    (read : ofChecked text = .ok template) : template.text = text := by
  obtain ⟨pieces, _, whole⟩ := bind_ok_iff.mp read
  split at whole
  · cases whole
  · cases whole
    rfl

theorem Template.is_static_iff {template : Template} :
    template.isStatic = true ↔ ∀ piece ∈ template.pieces, ∃ c, piece = .literal c := by
  unfold isStatic
  rw [List.all_eq_true]
  refine forall₂_congr fun piece _ => ?_
  cases piece with
  | literal c => simp
  | parameter name => simp
  | rest name => simp

/-- Parts among which there is no parameter are the characters of the text. -/
theorem read_pieces_literal {bound : Nat} {marks : List Mark} {pieces : List Piece}
    (enough : marks.length < bound) (read : readPieces bound marks = .ok pieces)
    (literal : ∀ piece ∈ pieces, ∃ c, piece = .literal c) :
    pieces = (marks.map Prod.fst).map .literal := by
  fun_induction readPieces bound marks generalizing pieces with
  | case1 marks => exact absurd enough (Nat.not_lt_zero _)
  | case2 bound =>
    cases read
    rfl
  | case3 bound rest => cases read
  | case4 bound => cases read
  | case5 bound brace rest => cases read
  | case6 bound first brace rest _ _ =>
    -- a parameter would be among the parts
    obtain ⟨⟨name, behind⟩, _, read⟩ := bind_ok_iff.mp read
    obtain ⟨more, _, same⟩ := bind_ok_iff.mp read
    split at same
    · cases same
      obtain ⟨c, other⟩ := literal _ List.mem_cons_self
      cases other
    · cases same
      obtain ⟨c, other⟩ := literal _ List.mem_cons_self
      cases other
  | case7 bound c brace rest _ _ _ _ ih =>
    obtain ⟨more, others, same⟩ := bind_ok_iff.mp read
    cases same
    obtain ⟨_, literal⟩ := List.forall_mem_cons.mp literal
    rw [List.map_cons, List.map_cons, ← ih (Nat.lt_of_succ_lt_succ enough) others literal]

theorem covers_literal_iff {chars text : List Char} :
    Template.covers (chars.map .literal) text = true ↔ chars = text := by
  induction chars generalizing text with
  | nil =>
    unfold Template.covers
    cases text with
    | nil => simp
    | cons d rest => simp
  | cons c chars ih =>
    cases text with
    | nil => simp [Template.covers]
    | cons d rest => simp [Template.covers, ih]

/-- Where no brace is left there were none to be doubled. -/
theorem unescape_plain {text : List Char} (noOpening : '{' ∉ (unescape text).map Prod.fst)
    (noClosing : '}' ∉ (unescape text).map Prod.fst) : (unescape text).map Prod.fst = text := by
  fun_induction unescape text with
  | case1 rest => exact absurd List.mem_cons_self noOpening
  | case2 rest => exact absurd List.mem_cons_self noClosing
  | case3 c rest _ _ ih =>
    rw [List.map_cons, List.mem_cons, not_or] at noOpening noClosing
    rw [List.map_cons, ih noOpening.2 noClosing.2]
  | case4 => rfl

/-- A template without parameters that stands for a plain path has the text of that path. -/
theorem Template.text_of_accepts {text path : String} {template : Template}
    (read : ofChecked text = .ok template) (static : template.isStatic = true)
    (noOpening : '{' ∉ path.toList) (noClosing : '}' ∉ path.toList)
    (accepted : template.accepts path = true) : text = path := by
  obtain ⟨pieces, pieced, whole⟩ := bind_ok_iff.mp read
  split at whole
  · cases whole
  · cases whole
    have literal := read_pieces_literal (Nat.lt_succ_self _) pieced (is_static_iff.mp static)
    unfold Template.accepts at accepted
    rw [literal] at accepted
    have same := covers_literal_iff.mp accepted
    rw [← same] at noOpening noClosing
    have plain := unescape_plain noOpening noClosing
    exact String.toList_inj.mp (plain.symm.trans same)

/-- The template of a path that is to be taken literally. -/
def Template.plain (path : String) : Template := ⟨path, path.toList.map .literal⟩

theorem Template.plain_static (path : String) : (plain path).isStatic = true := by
  refine is_static_iff.mpr fun piece member => ?_
  obtain ⟨c, _, same⟩ := List.mem_map.mp member
  exact ⟨c, same.symm⟩

theorem Template.plain_accepts_iff {path other : String} :
    (plain path).accepts other = true ↔ path = other :=
  covers_literal_iff.trans String.toList_inj

/-! ## Tables -/

namespace Table

variable {σ : Type} {before : List (Route σ)} {methods : Methods σ} {fallback : Option (Handler σ)}
  {path : String}

/-- A path that has been added has a route. -/
theorem add_there {table larger : Table σ} {method : String} {handler : Handler σ}
    (added : table.add method path handler = .ok larger) :
    ∃ route ∈ larger.routes, route.template.text = path := by
  unfold add at added
  obtain ⟨_, _, added⟩ := bind_ok_iff.mp added
  split at added
  next there =>
    obtain ⟨routes, extended, same⟩ := bind_ok_iff.mp added
    cases same
    obtain ⟨route, member, own⟩ := List.any_eq_true.mp there
    obtain ⟨longer, inside, step⟩ := map_steps_ok extended route member
    rw [if_pos own] at step
    obtain ⟨_, _, _, rfl⟩ := extend_cases step
    exact ⟨_, inside, beq_iff_eq.mp own⟩
  next =>
    obtain ⟨template, read, same⟩ := bind_ok_iff.mp added
    cases same
    exact ⟨_, List.mem_append_right _ List.mem_cons_self,
      Template.text_of_checked (map_error_ok_iff.mp read)⟩

/-- A table has a route, and no other one for the same text. -/
structure Sole (table : Table σ) (route : Route σ) : Prop where
  there : route ∈ table.routes
  only : ∀ other ∈ table.routes, other.template.text = route.template.text → other = route

/-- A route that is added behind those for other texts. -/
theorem sole_last {route : Route σ}
    (others : ∀ other ∈ before, other.template.text ≠ route.template.text) :
    Sole ⟨before ++ [route], fallback⟩ route := by
  refine ⟨List.mem_append_right before List.mem_cons_self, fun other member same => ?_⟩
  rcases List.mem_append.mp member with here | last
  · exact absurd same (others other here)
  · exact List.mem_singleton.mp last

/-- Additions for other paths leave it alone. -/
theorem Sole.kept {table larger : Table σ} {route : Route σ} {method added_path : String}
    {handler : Handler σ} (sole : table.Sole route)
    (added : table.add method added_path handler = .ok larger)
    (elsewhere : route.template.text ≠ added_path) : larger.Sole route := by
  refine ⟨add_kept added route sole.there elsewhere,
    (add_each added (fun other there _ => sole.only other there) ?_ ?_).1⟩
  · intro other _ longer own extended same
    obtain ⟨_, _, _, rfl⟩ := extend_cases extended
    exact absurd (same.symm.trans own) elsewhere
  · intro template read same
    exact absurd (same.symm.trans (Template.text_of_checked read)) elsewhere

/-- A path without braces finds a route for it, if there is one. -/
theorem find_there {table : Table σ} {route : Route σ} (noOpening : '{' ∉ path.toList)
    (noClosing : '}' ∉ path.toList) (there : route ∈ table.routes)
    (plain : route.template = .plain path)
    (read : ∀ route ∈ table.routes, Template.ofChecked route.template.text = .ok route.template) :
    ∃ found ∈ table.routes, table.find? path = some found ∧ found.template.text = path := by
  have accepted : route.template.accepts path = true := by
    rw [plain]
    exact Template.plain_accepts_iff.mpr rfl
  have static : route.template.isStatic = true := by
    rw [plain]
    exact Template.plain_static path
  cases found : (table.routes.filter (·.template.accepts path)).find? (·.template.isStatic) with
  | none =>
    have inside : route ∈ table.routes.filter (·.template.accepts path) :=
      List.mem_filter.mpr ⟨there, accepted⟩
    exact absurd static (List.find?_eq_none.mp found route inside)
  | some other =>
    obtain ⟨member, accepts⟩ := List.mem_filter.mp (List.mem_of_find?_eq_some found)
    have other_static := List.find?_some found
    refine ⟨other, member, ?_,
      Template.text_of_accepts (read other member) other_static noOpening noClosing accepts⟩
    unfold find?
    simp only [found, Option.some_or]

/-- If it is the only one, it is found. -/
theorem find_sole {table : Table σ} (noOpening : '{' ∉ path.toList) (noClosing : '}' ∉ path.toList)
    (sole : table.Sole ⟨.plain path, methods⟩)
    (read : ∀ route ∈ table.routes, Template.ofChecked route.template.text = .ok route.template) :
    table.find? path = some ⟨.plain path, methods⟩ := by
  obtain ⟨other, member, found, text⟩ := find_there noOpening noClosing sole.there rfl read
  rw [found, sole.only other member text]

/-- Any other path finds what it finds without that route. -/
theorem find_beside {other : String} (different : path ≠ other) :
    (⟨before ++ [⟨.plain path, methods⟩], fallback⟩ : Table σ).find? other =
      (⟨before, fallback⟩ : Table σ).find? other := by
  have foreign : [(⟨.plain path, methods⟩ : Route σ)].filter (·.template.accepts other) = [] :=
    List.filter_eq_nil_iff.mpr fun route member accepted => by
      rw [List.mem_singleton.mp member] at accepted
      exact different (Template.plain_accepts_iff.mp accepted)
  unfold find?
  simp only [List.filter_append, foreign, List.append_nil]

end Table
end Gatehouse.Router
