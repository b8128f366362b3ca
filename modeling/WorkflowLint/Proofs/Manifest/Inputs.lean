/-
# WorkflowLint.Proofs.Manifest.Inputs -- the inputs that declarations come to

Inputs are declared one after the other, a later declaration of a name in the place of the
earlier one.  `Gathers declared inputs` says what this comes to, without saying how: the names
are those that are declared, in the order of their first declarations, and each input is the
last declaration of its name.  These rules leave no choice (`Gathers.unique`).

Later inputs are laid over earlier ones (`overlay`): each as the later one of its name, where
it stands, and the other later ones behind.  Gathering is compatible with that
(`Gathers.append`), so declarations may be gathered in parts; a single declaration is the
least of them (`declare_eq_overlay`).
-/
import Mathlib.Data.List.Sort
import WorkflowLint.Manifest

namespace WorkflowLint.Manifest

set_option autoImplicit false

def names (inputs : List Input) : List String := inputs.map (·.name)

@[simp] theorem names_append (inputs later : List Input) :
    names (inputs ++ later) = names inputs ++ names later :=
  List.map_append

@[simp] theorem names_cons (i : Input) (inputs : List Input) :
    names (i :: inputs) = i.name :: names inputs := rfl

theorem mem_names {inputs : List Input} {name : String} :
    name ∈ names inputs ↔ ∃ i ∈ inputs, i.name = name := List.mem_map

/-! ## First and last declarations -/

/-- Of two names the one is declared before the other: at some point it was and the other
was not. -/
def DeclaredBefore (declared : List Input) (first second : String) : Prop :=
  ∃ earlier, earlier <+: declared ∧ first ∈ names earlier ∧ second ∉ names earlier

/-- An input is the last declaration of its name. -/
def IsLast (declared : List Input) (i : Input) : Prop :=
  ∃ before after, declared = before ++ i :: after ∧ i.name ∉ names after

variable {declared later inputs : List Input} {first second : String} {i j : Input}

theorem DeclaredBefore.irrefl : ¬ DeclaredBefore declared first first :=
  fun ⟨_, _, held, missing⟩ => missing held

theorem DeclaredBefore.asymm (before : DeclaredBefore declared first second) :
    ¬ DeclaredBefore declared second first := by
  obtain ⟨earlier, part, held, missing⟩ := before
  rintro ⟨earlier', part', held', missing'⟩
  have nested := List.prefix_or_prefix_of_prefix part part'
  rcases nested with ⟨more, rfl⟩ | ⟨more, rfl⟩
  · exact missing' (names_append earlier more ▸ List.mem_append_left _ held)
  · exact missing (names_append earlier' more ▸ List.mem_append_left _ held')

theorem DeclaredBefore.append_right (before : DeclaredBefore declared first second)
    (later : List Input) : DeclaredBefore (declared ++ later) first second := by
  obtain ⟨earlier, part, held, missing⟩ := before
  exact ⟨earlier, part.trans (List.prefix_append _ _), held, missing⟩

theorem DeclaredBefore.append_left (before : DeclaredBefore later first second)
    (new : second ∉ names declared) : DeclaredBefore (declared ++ later) first second := by
  obtain ⟨earlier, part, held, missing⟩ := before
  refine ⟨declared ++ earlier, (List.prefix_append_right_inj declared).2 part, ?_, ?_⟩
  · simp [held]
  · simp [new, missing]

theorem DeclaredBefore.of_mem (held : first ∈ names declared) (new : second ∉ names declared)
    (later : List Input) : DeclaredBefore (declared ++ later) first second :=
  ⟨declared, List.prefix_append _ _, held, new⟩

theorem IsLast.append_left (isLast : IsLast later i) (declared : List Input) :
    IsLast (declared ++ later) i := by
  obtain ⟨before, after, rfl, missing⟩ := isLast
  exact ⟨declared ++ before, after, (List.append_assoc _ _ _).symm, missing⟩

theorem IsLast.append_right (isLast : IsLast declared i) (missing : i.name ∉ names later) :
    IsLast (declared ++ later) i := by
  obtain ⟨before, after, rfl, missing'⟩ := isLast
  refine ⟨before, after ++ later, by simp, ?_⟩
  simp [missing, missing']

theorem IsLast.unique (isLast : IsLast declared i) (isLast' : IsLast declared j)
    (name : i.name = j.name) : i = j := by
  obtain ⟨before, after, rfl, missing⟩ := isLast
  obtain ⟨before', after', same, missing'⟩ := isLast'
  rcases List.append_eq_append_iff.1 same with ⟨middle, rfl, rest⟩ | ⟨middle, rfl, rest⟩
  · cases middle with
    | nil => exact (List.cons.inj rest).1
    | cons k middle =>
        obtain ⟨rfl, rfl⟩ := List.cons.inj rest
        exact absurd (by simp [name]) missing
  · cases middle with
    | nil => exact (List.cons.inj rest).1.symm
    | cons k middle =>
        obtain ⟨rfl, rfl⟩ := List.cons.inj rest
        exact absurd (by simp [name]) missing'

/-! ## What declarations come to -/

/-- The inputs that declarations come to. -/
structure Gathers (declared inputs : List Input) : Prop where
  mem_iff : ∀ name, name ∈ names inputs ↔ name ∈ names declared
  ordered : (names inputs).Pairwise (DeclaredBefore declared)
  last : ∀ i ∈ inputs, IsLast declared i

namespace Gathers

theorem distinct (gathers : Gathers declared inputs) : (names inputs).Nodup :=
  gathers.ordered.imp fun {first second} before same => by
    obtain rfl : first = second := same
    exact DeclaredBefore.irrefl before

theorem subset {inputs' : List Input} (gathers : Gathers declared inputs)
    (gathers' : Gathers declared inputs') : inputs ⊆ inputs' := by
  intro i member
  have declared : i.name ∈ names declared := (gathers.mem_iff _).1 (mem_names.2 ⟨i, member, rfl⟩)
  obtain ⟨j, member', name⟩ := mem_names.1 ((gathers'.mem_iff _).2 declared)
  exact (gathers'.last j member').unique (gathers.last i member) name ▸ member'

/-- Declarations come to the inputs of one list only. -/
theorem unique {inputs' : List Input} (gathers : Gathers declared inputs)
    (gathers' : Gathers declared inputs') : inputs = inputs' := by
  let Before (i j : Input) : Prop := DeclaredBefore declared i.name j.name
  have irrefl : Std.Irrefl Before := ⟨fun _ => DeclaredBefore.irrefl⟩
  have antisymm : Std.Antisymm Before := ⟨fun _ _ before after => absurd after before.asymm⟩
  have ordered : inputs.Pairwise Before := List.pairwise_map.1 gathers.ordered
  have ordered' : inputs'.Pairwise Before := List.pairwise_map.1 gathers'.ordered
  exact ordered.eq_of_mem_iff ordered' fun i =>
    ⟨fun member => gathers.subset gathers' member, fun member => gathers'.subset gathers member⟩

theorem nil : Gathers [] [] := ⟨fun _ => Iff.rfl, List.Pairwise.nil, by simp⟩

theorem singleton (i : Input) : Gathers [i] [i] where
  mem_iff _ := Iff.rfl
  ordered := List.pairwise_singleton _ _
  last j member := ⟨[], [], by rw [List.mem_singleton.1 member]; rfl, List.not_mem_nil⟩

end Gathers

/-! ## Later inputs over earlier ones -/

/-- Inputs with later ones laid over them. -/
def overlay (inputs later : List Input) : List Input :=
  inputs.map (fun i => (later.find? (·.name == i.name)).getD i) ++
    later.filter (fun i => i.name ∉ names inputs)

theorem name_getD_find? (later : List Input) (i : Input) :
    ((later.find? (·.name == i.name)).getD i).name = i.name := by
  cases found : later.find? (·.name == i.name) with
  | none => rfl
  | some j => simpa using List.find?_some found

theorem names_overlay (inputs later : List Input) :
    names (overlay inputs later) =
      names inputs ++ (names later).filter (· ∉ names inputs) := by
  rw [overlay, names_append]
  congr 1
  · simp only [names, List.map_map]
    exact List.map_congr_left fun i _ => name_getD_find? later i
  · simp only [names, List.filter_map]
    rfl

/-- What is laid over stays, and of what lies below that which no later input replaces. -/
theorem mem_or_of_mem_overlay (member : i ∈ overlay inputs later) :
    i ∈ later ∨ (i ∈ inputs ∧ i.name ∉ names later) := by
  rw [overlay, List.mem_append] at member
  rcases member with member | member
  · obtain ⟨j, below, rfl⟩ := List.mem_map.1 member
    cases found : later.find? (·.name == j.name) with
    | some k => exact Or.inl (List.mem_of_find?_eq_some found)
    | none =>
        refine Or.inr ⟨below, fun held => ?_⟩
        obtain ⟨k, above, name⟩ := mem_names.1 held
        exact List.find?_eq_none.1 found k above (beq_iff_eq.2 name)
  · exact Or.inl (List.mem_filter.1 member).1

/-- Declarations may be gathered in parts. -/
theorem Gathers.append {declared' inputs' : List Input} (gathers : Gathers declared inputs)
    (gathers' : Gathers declared' inputs') :
    Gathers (declared ++ declared') (overlay inputs inputs') where
  mem_iff name := by
    simp only [names_overlay, names_append, List.mem_append, List.mem_filter, gathers.mem_iff,
      gathers'.mem_iff, decide_eq_true_eq]
    tauto
  ordered := by
    rw [names_overlay, List.pairwise_append]
    refine ⟨gathers.ordered.imp fun before => before.append_right declared', ?_, ?_⟩
    · refine (gathers'.ordered.filter _).imp_of_mem fun _ new before => before.append_left ?_
      rw [← gathers.mem_iff]
      simpa using (List.mem_filter.1 new).2
    · intro first held second new
      refine DeclaredBefore.of_mem ((gathers.mem_iff first).1 held) ?_ declared'
      rw [← gathers.mem_iff]
      simpa using (List.mem_filter.1 new).2
  last i member := by
    rcases mem_or_of_mem_overlay member with above | ⟨below, missing⟩
    · exact (gathers'.last i above).append_left declared
    · rw [gathers'.mem_iff] at missing
      exact (gathers.last i below).append_right missing

/-! ## One declaration after the other -/

theorem getD_find?_of_not_mem (missing : i.name ∉ names later) :
    (later.find? (·.name == i.name)).getD i = i := by
  have none : later.find? (·.name == i.name) = none := by
    refine List.find?_eq_none.2 fun j member name => missing ?_
    exact mem_names.2 ⟨j, member, beq_iff_eq.1 name⟩
  rw [none, Option.getD_none]

theorem map_getD_find?_of_disjoint (apart : ∀ i ∈ inputs, i.name ∉ names later) :
    inputs.map (fun i => (later.find? (·.name == i.name)).getD i) = inputs :=
  (List.map_congr_left fun i member => getD_find?_of_not_mem (apart i member)).trans
    (List.map_id' inputs)

theorem not_mem_names_singleton (missing : i.name ∉ names inputs) (member : j ∈ inputs) :
    j.name ∉ names [i] := by
  intro held
  have name : j.name = i.name := List.mem_singleton.1 held
  exact missing (mem_names.2 ⟨j, member, name⟩)

/-- To declare an input is to lay it over the others. -/
theorem declare_eq_overlay (distinct : (names inputs).Nodup) (i : Input) :
    declare inputs i = overlay inputs [i] := by
  induction inputs with
  | nil => rfl
  | cons j inputs ih =>
      rw [names_cons, List.nodup_cons] at distinct
      by_cases same : j.name = i.name
      · have noneNamed : i.name ∉ names inputs := same ▸ distinct.1
        have others : inputs.map (fun k => ([i].find? (·.name == k.name)).getD k) = inputs :=
          map_getD_find?_of_disjoint fun _ => not_mem_names_singleton noneNamed
        rw [declare, if_pos same, overlay, List.map_cons, others]
        simp [same]
      · rw [declare, if_neg same, ih distinct.2]
        simp [overlay, Ne.symm same, List.filter_singleton]

theorem Gathers.declare (gathers : Gathers declared inputs) (i : Input) :
    Gathers (declared ++ [i]) (Manifest.declare inputs i) := by
  rw [declare_eq_overlay gathers.distinct]
  exact gathers.append (.singleton i)

/-- Declaring inputs in turn comes to what the rules say. -/
theorem Gathers.foldl (gathers : Gathers declared inputs) (later : List Input) :
    Gathers (declared ++ later) (later.foldl Manifest.declare inputs) := by
  induction later generalizing declared inputs with
  | nil => rwa [List.append_nil]
  | cons i later ih =>
      rw [← List.singleton_append, ← List.append_assoc]
      exact ih (gathers.declare i)

/-- Inputs of different names come to themselves. -/
theorem Gathers.self (distinct : (names inputs).Nodup) : Gathers inputs inputs := by
  induction inputs with
  | nil => exact .nil
  | cons i inputs ih =>
      rw [names_cons, List.nodup_cons] at distinct
      have parts := (Gathers.singleton i).append (ih distinct.2)
      have whole : overlay [i] inputs = i :: inputs := by
        have others : inputs.filter (fun j => j.name ∉ names [i]) = inputs := by
          refine List.filter_eq_self.2 fun j member => decide_eq_true ?_
          exact not_mem_names_singleton distinct.1 member
        rw [overlay, others, List.map_singleton, getD_find?_of_not_mem distinct.1]
        rfl
      rwa [whole] at parts

end WorkflowLint.Manifest
