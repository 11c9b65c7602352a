import JobFlow.Jobs.Registry

/-!
# Qualified names of job types

A job type is looked up by its class name or by its qualified name `module::Class`.
-/

namespace JobFlow

namespace Registry

/-! ### Separators -/

theorem untilSeparator_of_free : ∀ {l : List Char}, ¬ [':', ':'] <:+: l → untilSeparator l = l
  | [], _ => rfl
  | c :: rest, free => by
    have sep : ¬ (c = ':' ∧ rest.head? = some ':') := by
      rintro ⟨rfl, head⟩
      obtain ⟨tail, rfl⟩ : ∃ tail, rest = ':' :: tail := by
        cases rest with
        | nil => cases head
        | cons d tail => exact ⟨tail, by simpa using head⟩
      exact free (List.IsPrefix.isInfix ⟨tail, rfl⟩)
    rw [untilSeparator, if_neg sep, untilSeparator_of_free fun inner => free (List.infix_cons inner)]

/-- The first separator of `xs ++ "::" ++ ys` is the one written between them, unless `xs`
holds one or ends in a colon. -/
theorem untilSeparator_append : ∀ (xs ys : List Char), ¬ [':', ':'] <:+: xs ++ [':'] →
    untilSeparator (xs ++ ':' :: ':' :: ys) = xs
  | [], ys, _ => by simp [untilSeparator]
  | x :: xs, ys, free => by
    have sep : ¬ (x = ':' ∧ (xs ++ ':' :: ':' :: ys).head? = some ':') := by
      rintro ⟨rfl, head⟩
      -- a colon after the first one makes `::` inside `x :: xs ++ [':']`
      cases xs with
      | nil => exact free (List.infix_refl _)
      | cons d tail =>
        obtain rfl : d = ':' := by simpa using head
        exact free (List.IsPrefix.isInfix ⟨tail ++ [':'], rfl⟩)
    have rest : ¬ [':', ':'] <:+: xs ++ [':'] := fun inner => free (List.infix_cons inner)
    simp only [List.cons_append]
    rw [untilSeparator, if_neg sep, untilSeparator_append xs ys rest]

theorem separator_prefix_iff {c : Char} {rest : List Char} :
    [':', ':'] <+: c :: rest ↔ c = ':' ∧ rest.head? = some ':' := by
  cases rest with
  | nil => simp
  | cons d tail => simp [List.cons_prefix_cons, eq_comm]

theorem separatorIn_iff : ∀ {l : List Char}, separatorIn l = true ↔ [':', ':'] <:+: l
  | [] => by simp [separatorIn]
  | c :: rest => by
    rw [separatorIn, List.infix_cons_iff, separator_prefix_iff, ← separatorIn_iff]
    simp

theorem hasSeparator_eq_false {c : String} : hasSeparator c = false ↔ ¬ [':', ':'] <:+: c.toList := by
  rw [← separatorIn_iff, hasSeparator]
  simp

theorem separator_infix_reverse {l : List Char} : [':', ':'] <:+: l.reverse ↔ [':', ':'] <:+: l := by
  simpa using (@List.reverse_infix _ [':', ':'] l.reverse).symm

theorem separator_free_cons {l : List Char} (free : ¬ [':', ':'] <:+: l) (noColon : l.head? ≠ some ':') :
    ¬ [':', ':'] <:+: ':' :: l := by
  rw [List.infix_cons_iff]
  rintro (lead | inner)
  · obtain ⟨tail, shape⟩ := lead
    cases l with
    | nil => cases shape
    | cons d rest =>
      obtain ⟨rfl, -⟩ : d = ':' ∧ _ := by simpa using shape.symm
      exact noColon rfl
  · exact free inner

theorem classPart_of_free {c : String} (free : hasSeparator c = false) : classPart c = c := by
  have reversed : ¬ [':', ':'] <:+: c.toList.reverse := by
    rw [separator_infix_reverse]
    exact hasSeparator_eq_false.1 free
  simp [classPart, untilSeparator_of_free reversed]

theorem classPart_qualified (m : String) {c : String} (free : hasSeparator c = false)
    (noColon : c.toList.head? ≠ some ':') : classPart (m ++ "::" ++ c) = c := by
  have reversed : ¬ [':', ':'] <:+: c.toList.reverse ++ [':'] := by
    rw [← List.reverse_cons, separator_infix_reverse]
    exact separator_free_cons (hasSeparator_eq_false.1 free) noColon
  simp [classPart, untilSeparator_append _ _ reversed]

/-! ### Registrations by class name -/

theorem lookup_filter (l : List (String × Registration)) (c k : String) :
    (l.filter (·.1 != c)).lookup k = if k = c then none else l.lookup k := by
  induction l with
  | nil => simp
  | cons p l ih =>
    obtain ⟨k', e⟩ := p
    by_cases same : k' = c
    · -- the class's own registration is dropped
      subst same
      rw [List.filter_cons_of_neg (by simp), ih]
      by_cases hit : k = k'
      · simp [hit]
      · simp [hit, List.lookup_cons, beq_false_of_ne hit]
    · rw [List.filter_cons_of_pos (by simpa using same)]
      by_cases hit : k = k'
      · subst hit
        simp [same]
      · simp only [List.lookup_cons, beq_false_of_ne hit, ih]

theorem find?_refile (r : Registry) (c k : String) (e : Registration) :
    ({ entries := r.entries.filter (·.1 != c) ++ [(c, e)] } : Registry).find? k =
      if k = c then some e else r.find? k := by
  by_cases hit : k = c
  · simp [find?, List.lookup_append, lookup_filter, hit]
  · simp [find?, List.lookup_append, lookup_filter, hit, List.lookup_cons, beq_false_of_ne hit]

theorem find?_remove (r : Registry) (c k : String) :
    ({ entries := r.entries.filter (·.1 != c) } : Registry).find? k = if k = c then none else r.find? k :=
  lookup_filter r.entries c k

/-- A registration that goes through was for a class name that is not empty and holds no
`::`, and it either changed nothing or filed the new registration under that name. -/
theorem register_ok {r r' : Registry} {m c : String} {run : Runnable} {o : Bool}
    (ok : r.register m c run o = .ok r') :
    c ≠ "" ∧ hasSeparator c = false ∧
      (r' = r ∨ r' = { entries := r.entries.filter (·.1 != c) ++ [(c, ⟨m, c, run⟩)] }) := by
  unfold register at ok
  split at ok
  · cases ok
  · rename_i valid
    simp only [not_or, String.isEmpty_iff, Bool.not_eq_true] at valid
    refine ⟨valid.1, valid.2, ?_⟩
    split at ok
    · -- the class is registered already: the same module changes nothing, another replaces it
      split at ok
      · cases ok
        exact .inl rfl
      · split at ok
        · cases ok
          exact .inr rfl
        · cases ok
    · cases ok
      exact .inr rfl

/-! ### Reachable registries -/

/-- Every registration is filed under its own class name, which is not empty and holds no
`::`. -/
def WellFormed (r : Registry) : Prop :=
  ∀ c e, r.find? c = some e → e.className = c ∧ c ≠ "" ∧ hasSeparator c = false

/-- A change made to a registry: a registration, which may be refused, or a removal. -/
inductive Change where
  | register (modulePath className : String) (runnable : Runnable) (overwrite : Bool)
  | unregister (className : String)

/-- The registry after a change; a refused registration leaves it as it was. -/
def apply (r : Registry) : Change → Registry
  | .register m c run o =>
    match r.register m c run o with
    | .ok r' => r'
    | .error _ => r
  | .unregister c => (r.unregister c).1

theorem wellFormed_empty : WellFormed {} := by
  intro c e found
  cases found

theorem WellFormed.apply {r : Registry} (wf : WellFormed r) : ∀ ch, WellFormed (r.apply ch)
  | .register m c run o => by
    rw [Registry.apply]
    cases ok : r.register m c run o with
    | error _ => exact wf
    | ok r' =>
      obtain ⟨full, free, same | refiled⟩ := register_ok ok
      · exact same ▸ wf
      · intro k e found
        subst refiled
        rw [find?_refile] at found
        split at found
        · cases found
          rename_i hit
          exact ⟨hit.symm, hit ▸ full, hit ▸ free⟩
        · exact wf k e found
  | .unregister c => by
    intro k e found
    simp only [Registry.apply, unregister, find?_remove] at found
    split at found
    · cases found
    · exact wf k e found

theorem wellFormed_changes (cs : List Change) : WellFormed (cs.foldl apply {}) := by
  suffices ∀ r, WellFormed r → WellFormed (cs.foldl apply r) from this {} wellFormed_empty
  induction cs with
  | nil => exact fun _ wf => wf
  | cons ch cs ih => exact fun r wf => ih _ (wf.apply ch)

/-! ### Lookups -/

section Registered

variable {r : Registry} {c : String} {e : Registration} (wf : WellFormed r) (registered : r.find? c = some e)
include wf registered

theorem qualifiedName_registered : e.qualifiedName = if e.modulePath = "" then c else e.modulePath ++ "::" ++ c := by
  simp [Registration.qualifiedName, (wf c e registered).1, String.isEmpty_iff]

theorem lookup_class : r.lookup c = .ok e.runnable := by
  have free := (wf c e registered).2.2
  simp [lookup, classPart_of_free free, registered, free]
  rfl

theorem lookup_qualified (plain : e.modulePath = "" ∨ c.toList.head? ≠ some ':') :
    r.lookup e.qualifiedName = .ok e.runnable := by
  have free := (wf c e registered).2.2
  rw [qualifiedName_registered wf registered]
  split
  · exact lookup_class wf registered
  · rename_i fromModule
    have noColon := plain.resolve_left fromModule
    simp [lookup, classPart_qualified _ free noColon, registered, qualifiedName_registered wf registered,
      fromModule]
    rfl

omit wf in
theorem lookup_other {name : String} (qualified : hasSeparator name = true) (part : classPart name = c)
    (other : name ≠ e.qualifiedName) : ∃ msg, r.lookup name = .error (.notFound msg) := by
  have found : r.find? (classPart name) = some e := part ▸ registered
  simp only [lookup, found, qualified, ne_eq, Ne.symm other, not_false_eq_true, and_self, ↓reduceIte]
  exact ⟨_, rfl⟩

theorem register_same (run : Runnable) (o : Bool) : r.register e.modulePath c run o = .ok r := by
  obtain ⟨-, full, free⟩ := wf c e registered
  simp [register, full, free, registered, String.isEmpty_iff]
  rfl

theorem register_other {m : String} (run : Runnable) (other : m ≠ e.modulePath) :
    (∃ msg, r.register m c run false = .error (.conflict msg)) ∧
      ∃ r', r.register m c run true = .ok r' ∧ r'.find? c = some ⟨m, c, run⟩ := by
  obtain ⟨-, full, free⟩ := wf c e registered
  constructor
  · simp only [register, full, free, registered, String.isEmpty_iff, Ne.symm other, or_self, ↓reduceIte,
      Bool.false_eq_true]
    exact ⟨_, rfl⟩
  · refine ⟨_, ?_, find?_refile r c c _ ▸ if_pos rfl⟩
    simp only [register, full, free, registered, String.isEmpty_iff, Ne.symm other, ↓reduceIte]
    rfl

end Registered

/-- After any registrations and removals, a registered class is found by its class name and by
its qualified name, unless the class name starts with a colon and the module path is not
empty; another name with `::` whose class part is the class is not found. -/
theorem lookup_round_trip (cs : List Change) {c : String} {e : Registration}
    (registered : (cs.foldl apply {}).find? c = some e) :
    (cs.foldl apply {}).lookup c = .ok e.runnable ∧
      (cs.foldl apply {}).qualifiedName c = .ok e.qualifiedName ∧
      (e.modulePath = "" ∨ c.toList.head? ≠ some ':' → (cs.foldl apply {}).lookup e.qualifiedName = .ok e.runnable) ∧
      (∀ name, hasSeparator name = true → classPart name = c → name ≠ e.qualifiedName →
        ∃ msg, (cs.foldl apply {}).lookup name = .error (.notFound msg)) ∧
      (∀ run o, (cs.foldl apply {}).register e.modulePath c run o = .ok (cs.foldl apply {})) ∧
      ∀ m run, m ≠ e.modulePath →
        (∃ msg, (cs.foldl apply {}).register m c run false = .error (.conflict msg)) ∧
          ∃ r', (cs.foldl apply {}).register m c run true = .ok r' ∧ r'.find? c = some ⟨m, c, run⟩ := by
  have wf := wellFormed_changes cs
  refine ⟨lookup_class wf registered, ?_, lookup_qualified wf registered, fun _ => lookup_other registered,
    register_same wf registered, fun _ run other => register_other wf registered run other⟩
  simp [qualifiedName, registered]
  rfl

theorem lookup_round_trip_adder :
    ([Change.register "sim::math" "Adder" .master false].foldl apply {}).find? "Adder" =
        some ⟨"sim::math", "Adder", .master⟩ ∧
      ([Change.register "sim::math" "Adder" .master false].foldl apply {}).lookup "sim::math::Adder" =
        .ok .master :=
  have registered : ([Change.register "sim::math" "Adder" .master false].foldl apply {}).find? "Adder" =
      some ⟨"sim::math", "Adder", .master⟩ := rfl
  ⟨registered, (lookup_round_trip _ registered).2.2.1 (.inr (by simp))⟩

end Registry

end JobFlow
