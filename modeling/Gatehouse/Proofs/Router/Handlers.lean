import Gatehouse.Proofs.Steps
import Gatehouse.Router.Table

/-! What the handlers of a route table have in common. A property of every handler that is added is a
property of the handler that answers a request, provided the answers of the table itself have it. -/
namespace Gatehouse.Router

variable {σ : Type} {holds : Handler σ → Prop}

/-- Every handler of a route has a property. -/
def Methods.All (holds : Handler σ → Prop) : Methods σ → Prop
  | .every handler => holds handler
  | .listed handlers => ∀ entry ∈ handlers, holds entry.2

theorem Methods.handler_all {methods : Methods σ} {method : String} {handler : Handler σ}
    (all : methods.All holds) (found : methods.handler? method = some handler) :
    holds handler := by
  cases methods with
  | every only =>
    cases found
    exact all
  | listed handlers =>
    have listed (name : String) (named : handlers.lookup name = some handler) :
        holds handler := by
      obtain ⟨before, after, split, _⟩ := List.lookup_eq_some_iff.mp named
      exact all (name, handler) (by rw [split]; simp)
    rcases Option.or_eq_some_iff.mp found with own | ⟨_, other⟩
    · exact listed method own
    · split at other
      · exact listed "GET" other
      · cases other

/-- A further method changes nothing for the others; only that of `GET` would for `HEAD`. -/
theorem Methods.handler_append {handlers : List (String × Handler σ)} {name method : String}
    {handler : Handler σ} (other : method ≠ name) (notGet : name ≠ "GET") :
    (listed (handlers ++ [(name, handler)])).handler? method =
      (listed handlers).handler? method := by
  have kept {asked : String} (different : asked ≠ name) :
      (handlers ++ [(name, handler)]).lookup asked = handlers.lookup asked := by
    rw [List.lookup_append, List.lookup_cons, beq_false_of_ne different]
    exact Option.or_none
  unfold handler?
  simp only [kept other, kept notGet.symm]

/-- A method that is added is answered by its handler. -/
theorem Methods.handler_append_self {handlers : List (String × Handler σ)} {name : String}
    {handler : Handler σ} (absent : handlers.any (·.1 == name) = false) :
    (listed (handlers ++ [(name, handler)])).handler? name = some handler := by
  have unknown : handlers.lookup name = none := by
    rw [List.lookup_eq_none_iff]
    intro entry member
    have different := List.any_eq_false.mp absent entry member
    rw [beq_iff_eq] at different
    exact bne_iff_ne.mpr (Ne.symm different)
  unfold handler?
  simp only [List.lookup_append, unknown, List.lookup_cons_self, Option.none_or, Option.some_or]

namespace Table

/-- Every handler of a table has a property. -/
structure All (holds : Handler σ → Prop) (table : Table σ) : Prop where
  routes : ∀ route ∈ table.routes, route.methods.All holds
  fallback : ∀ handler ∈ table.fallback, holds handler

/-- What stands behind the layers for a request: the handler of its route, or one of the answers
for lack of a route or of a method. -/
def target (table : Table σ) (request : Request) : Handler σ :=
  match table.find? request.path with
  | some route => (route.methods.handler? request.method).getD methodNotAllowed
  | none => table.fallback.getD notFound

/-- A request once its route has been looked up. -/
def routed (table : Table σ) (request : Request) : Request :=
  { request with route := (table.find? request.path).map (·.template.text) }

theorem empty_all : (empty : Table σ).All holds := by
  constructor
  · intro route member
    cases member
  · intro handler member
    cases member

/-- All that an extension does: a method is added that the route has not had. -/
theorem extend_cases {route larger : Route σ} {method : String} {handler : Handler σ}
    (extended : extend route method handler = .ok larger) :
    ∃ handlers, route.methods = .listed handlers ∧ handlers.any (·.1 == method) = false ∧
      larger = { route with methods := .listed (handlers ++ [(method, handler)]) } := by
  unfold extend at extended
  cases methods : route.methods with
  | every only =>
    simp only [methods] at extended
    cases extended
  | listed handlers =>
    simp only [methods] at extended
    split at extended
    · cases extended
    next absent =>
      cases extended
      exact ⟨handlers, rfl, Bool.eq_false_iff.mpr absent, rfl⟩

/-- Behind an addition every route was there before for another path, or is the route of the path that has
been added and has been extended, or is a new one for that path. -/
theorem add_each {each : Route σ → Prop} {table larger : Table σ} {method path : String}
    {handler : Handler σ} (added : table.add method path handler = .ok larger)
    (old : ∀ route ∈ table.routes, route.template.text ≠ path → each route)
    (grown : ∀ route ∈ table.routes, ∀ larger, route.template.text = path →
      extend route method handler = .ok larger → each larger)
    (new : ∀ template, Template.ofChecked path = .ok template →
      each ⟨template, .listed [(method, handler)]⟩) :
    (∀ route ∈ larger.routes, each route) ∧ larger.fallback = table.fallback := by
  unfold add at added
  obtain ⟨_, _, added⟩ := bind_ok_iff.mp added
  split at added
  · obtain ⟨routes, extended, same⟩ := bind_ok_iff.mp added
    cases same
    refine ⟨map_steps_all extended fun route member result step => ?_, rfl⟩
    split at step
    next here => exact grown route member result (beq_iff_eq.mp here) step
    next elsewhere =>
      cases step
      exact old route member (mt beq_iff_eq.mpr elsewhere)
  next none_there =>
    obtain ⟨template, read, same⟩ := bind_ok_iff.mp added
    cases same
    have absent (route : Route σ) (member : route ∈ table.routes) : route.template.text ≠ path :=
      fun own => none_there (List.any_eq_true.mpr ⟨route, member, beq_iff_eq.mpr own⟩)
    refine ⟨fun route member => ?_, rfl⟩
    rcases List.mem_append.mp member with there | last
    · exact old route there (absent route there)
    · rw [List.mem_singleton.mp last]
      exact new template (map_error_ok_iff.mp read)

theorem add_all {table larger : Table σ} {method path : String} {handler : Handler σ}
    (added : table.add method path handler = .ok larger) (all : table.All holds)
    (own : holds handler) : larger.All holds := by
  have grown (route : Route σ) (there : route ∈ table.routes) (larger : Route σ)
      (_ : route.template.text = path) (extended : extend route method handler = .ok larger) :
      larger.methods.All holds := by
    obtain ⟨handlers, methods, _, rfl⟩ := extend_cases extended
    have before := all.routes route there
    rw [methods] at before
    intro entry member
    rcases List.mem_append.mp member with there | last
    · exact before entry there
    · rw [List.mem_singleton.mp last]
      exact own
  have new : (Methods.listed [(method, handler)]).All holds := by
    intro entry member
    rw [List.mem_singleton.mp member]
    exact own
  obtain ⟨routes, fallback⟩ :=
    add_each added (fun route there _ => all.routes route there) grown fun _ _ => new
  exact ⟨routes, fallback ▸ all.fallback⟩

/-- A path that no route is for gets a route of its own. -/
theorem add_absent {table : Table σ} {method path : String} {template : Template}
    (absent : ∀ route ∈ table.routes, route.template.text ≠ path)
    (checked : Template.checkText path = .ok ()) (read : Template.ofChecked path = .ok template)
    (handler : Handler σ) : table.add method path handler =
      .ok { table with routes := table.routes ++ [⟨template, .listed [(method, handler)]⟩] } := by
  have none_there : table.routes.any (·.template.text == path) = false :=
    List.any_eq_false.mpr fun route member same => absent route member (beq_iff_eq.mp same)
  unfold add
  rw [checked, none_there, read]
  rfl

/-- Where there is a route for a path already, it can be extended. -/
theorem add_present {table larger : Table σ} {method path : String} {handler : Handler σ}
    (added : table.add method path handler = .ok larger) :
    ∀ route ∈ table.routes, route.template.text = path →
      ∃ longer, extend route method handler = .ok longer := by
  intro route member same
  have there : table.routes.any (·.template.text == path) = true :=
    List.any_eq_true.mpr ⟨route, member, beq_iff_eq.mpr same⟩
  unfold add at added
  obtain ⟨_, _, added⟩ := bind_ok_iff.mp added
  rw [if_pos there] at added
  obtain ⟨routes, extended, _⟩ := bind_ok_iff.mp added
  obtain ⟨longer, _, step⟩ := map_steps_ok extended route member
  rw [if_pos (beq_iff_eq.mpr same)] at step
  exact ⟨longer, step⟩

/-- A method that a route answers already cannot be added for its path. -/
theorem add_unanswered {table larger : Table σ} {method path : String} {handler : Handler σ}
    (added : table.add method path handler = .ok larger) {route : Route σ}
    (member : route ∈ table.routes) {handlers : List (String × Handler σ)}
    (methods : route.methods = .listed handlers) (answered : handlers.any (·.1 == method) = true) :
    route.template.text ≠ path := by
  intro own
  obtain ⟨longer, extended⟩ := add_present added route member own
  obtain ⟨listed, same, absent, _⟩ := extend_cases extended
  rw [methods] at same
  cases same
  rw [answered] at absent
  cases absent

/-- The routes of other paths stay as they are. -/
theorem add_kept {table larger : Table σ} {method path : String} {handler : Handler σ}
    (added : table.add method path handler = .ok larger) :
    ∀ route ∈ table.routes, route.template.text ≠ path → route ∈ larger.routes := by
  intro route member elsewhere
  unfold add at added
  obtain ⟨_, _, added⟩ := bind_ok_iff.mp added
  split at added
  · obtain ⟨routes, extended, same⟩ := bind_ok_iff.mp added
    cases same
    obtain ⟨kept, inside, step⟩ := map_steps_ok extended route member
    rw [if_neg (mt beq_iff_eq.mp elsewhere)] at step
    cases step
    exact inside
  · obtain ⟨template, _, same⟩ := bind_ok_iff.mp added
    cases same
    exact List.mem_append_left _ member

theorem find_accepts {table : Table σ} {path : String} {route : Route σ}
    (found : table.find? path = some route) :
    route ∈ table.routes ∧ route.template.accepts path = true := by
  rcases Option.or_eq_some_iff.mp found with literal | ⟨_, first⟩
  · exact List.mem_filter.mp (List.mem_of_find?_eq_some literal)
  · exact List.mem_filter.mp (List.mem_of_mem_head? first)

theorem find_member {table : Table σ} {path : String} {route : Route σ}
    (found : table.find? path = some route) : route ∈ table.routes :=
  (find_accepts found).1

/-- What answers a request has the property too. -/
theorem target_all {table : Table σ} (all : table.All holds) (missing : holds notFound)
    (refused : holds methodNotAllowed) (request : Request) : holds (table.target request) := by
  unfold target
  cases found : table.find? request.path with
  | none =>
    cases fallback : table.fallback with
    | none => exact missing
    | some handler => exact all.fallback handler fallback
  | some route =>
    simp only []
    cases answers : route.methods.handler? request.method with
    | none => exact refused
    | some handler =>
      exact Methods.handler_all (all.routes route (find_member found)) answers

end Table
end Gatehouse.Router
