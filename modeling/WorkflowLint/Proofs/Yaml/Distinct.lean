/-
# WorkflowLint.Proofs.Yaml.Distinct -- no key stands twice in a mapping that is read

Reading a document checks the keys of each mapping when it is complete, so no key stands twice
in any mapping inside a value that is read (`value_distinct`).  This is all that is made use of
elsewhere (`KeepsKeysApart`): in such a mapping a string key is looked up as the one entry that
bears it (`lookup?_eq_some_iff`).
-/
import WorkflowLint.Yaml.Value

namespace WorkflowLint.Yaml

set_option autoImplicit false

namespace Value

/-! ## What stands inside a value -/

/-- A value stands inside itself, and inside whatever it is an item, a key or a value of. -/
inductive Inside (w : Value) : Value → Prop
  | self : Inside w w
  | item {items : List Value} {v : Value} (member : v ∈ items) (deeper : Inside w v) :
      Inside w (.sequence items)
  | key {entries : Entries} {k v : Value} (member : (k, v) ∈ entries) (deeper : Inside w k) :
      Inside w (.mapping entries)
  | value {entries : Entries} {k v : Value} (member : (k, v) ∈ entries) (deeper : Inside w v) :
      Inside w (.mapping entries)
  | under {tag : String} {v : Value} (deeper : Inside w v) : Inside w (.tagged tag v)

/-- A value and all that stands inside it have a property. -/
def Throughout (p : Value → Prop) (v : Value) : Prop := ∀ w, Inside w v → p w

variable {p : Value → Prop} {entries : Entries} {items : List Value} {v w : Value}
  {key s : String}

theorem Throughout.here (all : Throughout p v) : p v := all v .self

theorem throughout_sequence :
    Throughout p (.sequence items) ↔ p (.sequence items) ∧ ∀ v ∈ items, Throughout p v := by
  constructor
  · intro all
    exact ⟨all.here, fun v member w deeper => all w (.item member deeper)⟩
  · rintro ⟨here, each⟩ w inside
    cases inside with
    | self => exact here
    | item member deeper => exact each _ member w deeper

theorem throughout_mapping :
    Throughout p (.mapping entries) ↔
      p (.mapping entries) ∧ ∀ e ∈ entries, Throughout p e.1 ∧ Throughout p e.2 := by
  constructor
  · intro all
    exact ⟨all.here, fun e member =>
      ⟨fun w deeper => all w (.key member deeper), fun w deeper => all w (.value member deeper)⟩⟩
  · rintro ⟨here, each⟩ w inside
    cases inside with
    | self => exact here
    | key member deeper => exact (each _ member).1 w deeper
    | value member deeper => exact (each _ member).2 w deeper

theorem throughout_tagged (tag : String) :
    Throughout p (.tagged tag v) ↔ p (.tagged tag v) ∧ Throughout p v := by
  constructor
  · intro all
    exact ⟨all.here, fun w deeper => all w (.under deeper)⟩
  · rintro ⟨here, below⟩ w inside
    cases inside with
    | self => exact here
    | under deeper => exact below w deeper

/-- A value that is no collection and bears no tag. -/
def IsScalar : Value → Prop
  | .null | .bool _ | .number _ | .string _ => True
  | _ => False

/-- Nothing but itself stands inside a scalar. -/
theorem IsScalar.throughout (scalar : v.IsScalar) (here : p v) : Throughout p v := by
  intro w inside
  cases inside with
  | self => exact here
  | item _ _ | key _ _ | value _ _ | under _ => exact scalar.elim

theorem throughout_string : Throughout p (.string s) ↔ p (.string s) :=
  ⟨Throughout.here, fun here => IsScalar.throughout trivial here⟩

/-- No key stands twice, if it is a mapping. -/
def HasDistinctKeys : Value → Prop
  | .mapping entries => hasDuplicate entries = false
  | _ => True

/-- No key stands twice in any mapping inside a value. -/
def Distinct (v : Value) : Prop := Throughout HasDistinctKeys v

def IsUntagged : Value → Prop
  | .tagged _ _ => False
  | _ => True

/-- Nothing inside a value bears a tag. -/
def Untagged (v : Value) : Prop := Throughout IsUntagged v

theorem IsScalar.distinct (scalar : v.IsScalar) : v.Distinct := by
  refine scalar.throughout ?_
  cases v with
  | mapping entries => exact scalar.elim
  | null | bool _ | number _ | string _ | sequence _ | tagged _ _ => trivial

/-- A string is looked at through tags, of which there are none. -/
theorem string?_eq_some_iff (plain : v.Untagged) : v.string? = some s ↔ v = .string s := by
  cases v with
  | tagged tag v => exact plain.here.elim
  | null | bool _ | number _ | string _ | sequence _ | mapping _ => simp [string?, untagged]

/-! ## Looking a key up -/

theorem lookup?_cons_self (v : Value) (es : Entries) (key : String) :
    lookup? ((.string key, v) :: es) key = some v := by
  simp [lookup?]

theorem lookup?_cons_of_ne {k : Value} (other : k ≠ .string key) (v : Value) (es : Entries) :
    lookup? ((k, v) :: es) key = lookup? es key := by
  cases k with
  | string s =>
      have ne : s ≠ key := fun same => other (congrArg Value.string same)
      simp [lookup?, ne]
  | _ => simp [lookup?]

theorem hasDuplicate_eq_false_iff :
    hasDuplicate entries = false ↔ entries.Pairwise fun e e' => e.1.sameAs e'.1 = false := by
  induction entries with
  | nil => simp [hasDuplicate]
  | cons e es ih => simp [hasDuplicate, ih]

/-- A string key stands in one of two places only. -/
theorem not_sublist_of_hasDuplicate (single : hasDuplicate entries = false) :
    ¬ [(.string key, v), (.string key, w)].Sublist entries := by
  intro twice
  have different : sameAs (.string key) (.string key) = false :=
    List.pairwise_iff_forall_sublist.1 (hasDuplicate_eq_false_iff.1 single) twice
  simp [sameAs] at different

/-- Where no key stands twice, a string key is looked up as the entry that bears it. -/
theorem lookup?_eq_some_iff (single : hasDuplicate entries = false) :
    lookup? entries key = some v ↔ (.string key, v) ∈ entries := by
  induction entries with
  | nil => simp [lookup?]
  | cons e es ih =>
      obtain ⟨k, u⟩ := e
      have below : hasDuplicate es = false := by
        simp only [hasDuplicate, Bool.or_eq_false_iff] at single
        exact single.2
      by_cases same : k = .string key
      · subst same
        have new : (.string key, v) ∉ es := fun again =>
          not_sublist_of_hasDuplicate single ((List.singleton_sublist.2 again).cons_cons _)
        rw [lookup?_cons_self]
        simp [new, eq_comm]
      · have ne : (Value.string key, v) ≠ (k, u) := fun both => same (Prod.mk.inj both).1.symm
        rw [lookup?_cons_of_ne same, ih below, List.mem_cons]
        simp [ne]

end Value

/-! ## Reading -/

open Value (Distinct)

/-- Whatever a computation results in has a property. -/
def Ensures {α : Type} (x : Following α) (p : α → Prop) : Prop :=
  ∀ s v t, x.run s = .ok (v, t) → p v

section Ensures

variable {α β : Type} {p : α → Prop} {q : β → Prop} {x : Following α} {f : α → Following β}

theorem Ensures.pure {v : α} (holds : p v) : Ensures (pure v) p := by
  intro s u t read
  cases read
  exact holds

theorem Ensures.throw (problem : Error) : Ensures (throw problem : Following α) p := by
  intro s u t read
  cases read

theorem Ensures.bind (first : Ensures x p) (next : ∀ v, p v → Ensures (f v) q) :
    Ensures (x >>= f) q := by
  intro s v t read
  rw [StateT.run_bind] at read
  cases result : x.run s with
  | error problem =>
      rw [result] at read
      cases read
  | ok pair =>
      obtain ⟨u, s'⟩ := pair
      rw [result] at read
      exact next u (first s u s' result) s' v t read

/-- What is computed without following an alias. -/
theorem Ensures.lift {y : Except Error α} (holds : ∀ v, y = .ok v → p v) :
    Ensures (liftM y : Following α) p := by
  intro s v t read
  cases y with
  | error problem => cases read
  | ok u =>
      cases read
      exact holds _ rfl

theorem Ensures.mapM {g : α → Following β} {as : List α} (each : ∀ a ∈ as, Ensures (g a) q) :
    Ensures (as.mapM g) fun bs => ∀ b ∈ bs, q b := by
  induction as with
  | nil => exact .pure (by simp)
  | cons a as ih =>
      rw [List.mapM_cons]
      refine (each a List.mem_cons_self).bind fun b holds => ?_
      refine (ih fun c member => each c (List.mem_cons_of_mem _ member)).bind fun bs rest => ?_
      refine .pure fun c member => ?_
      rcases List.mem_cons.1 member with rfl | among
      · exact holds
      · exact rest c among

end Ensures

/-! ## Scalars -/

variable {v : Value} {tag : Option Octets} {style : Style} {s : String}

theorem integerValue?_isScalar (read : integerValue? s = .ok (some v)) : v.IsScalar := by
  unfold integerValue? at read
  repeat' split at read
  all_goals cases read
  trivial

theorem plainValue_isScalar (read : plainValue s = .ok v) : v.IsScalar := by
  simp only [plainValue, bind, Except.bind, pure, Except.pure] at read
  split at read
  · cases read
    trivial
  split at read
  · cases read
    trivial
  split at read
  · cases read
  rename_i found integer
  split at read
  · cases read
    exact integerValue?_isScalar integer
  repeat' split at read
  all_goals
    cases read
    trivial

theorem scalarValue_isScalar (read : scalarValue style s = .ok v) : v.IsScalar := by
  unfold scalarValue at read
  split at read
  · exact plainValue_isScalar read
  · cases read
    trivial

theorem coreValue_isScalar {core : CoreTag} (read : coreValue core s = .ok v) : v.IsScalar := by
  cases core with
  | int =>
      simp only [coreValue, bind, Except.bind, pure, Except.pure] at read
      split at read
      · cases read
      · rename_i found integer
        split at read
        · cases read
          exact integerValue?_isScalar integer
        · cases read
  | bool | float | null =>
      simp only [coreValue] at read
      split at read
      · cases read
        trivial
      · cases read

/-- However a scalar is tagged, there is no mapping inside it. -/
theorem taggedScalar_distinct (read : taggedScalar tag style s = .ok v) : v.Distinct := by
  unfold taggedScalar at read
  split at read
  · exact (scalarValue_isScalar read).distinct
  split at read
  · rename_i name _
    cases plain : scalarValue style s with
    | error problem =>
        rw [plain] at read
        cases read
    | ok u =>
        rw [plain] at read
        cases read
        exact (Value.throughout_tagged name).2 ⟨trivial, (scalarValue_isScalar plain).distinct⟩
  split at read
  · exact (coreValue_isScalar read).distinct
  split at read
  · exact (scalarValue_isScalar read).distinct
  · cases read
    exact Value.IsScalar.distinct trivial

/-! ## Documents -/

theorem withLocalTag_distinct (tag : Option Octets) (distinct : v.Distinct) :
    (withLocalTag tag v).Distinct := by
  unfold withLocalTag
  split
  · exact (Value.throughout_tagged _).2 ⟨trivial, distinct⟩
  · exact distinct

/-- One node is read when the nodes inside it are, which nest less deep. -/
theorem nodeValue_distinct (d : Document) (depth : Nat) (n : Node Nat) :
    Ensures (d.nodeValue depth n) Distinct := by
  induction depth generalizing n with
  | zero =>
      unfold Document.nodeValue
      refine Ensures.bind (p := fun _ => True) (fun _ _ _ _ => trivial) fun m _ => ?_
      cases m with
      | scalar p style text => exact .lift fun v read => taggedScalar_distinct read
      | aliasTo _ | sequence _ _ | mapping _ _ => exact .throw _
  | succ depth ih =>
      unfold Document.nodeValue
      refine Ensures.bind (p := fun _ => True) (fun _ _ _ _ => trivial) fun m _ => ?_
      cases m with
      | aliasTo target => exact .throw _
      | scalar p style text => exact .lift fun v read => taggedScalar_distinct read
      | sequence p items =>
          refine (Ensures.mapM fun item _ => ih item).bind fun values each => ?_
          exact .pure (withLocalTag_distinct p.tag (Value.throughout_sequence.2 ⟨trivial, each⟩))
      | mapping p entries =>
          have pairs : ∀ e ∈ entries, Ensures
              (do return (← d.nodeValue depth e.1, ← d.nodeValue depth e.2))
              fun e : Value × Value => e.1.Distinct ∧ e.2.Distinct := fun e _ =>
            (ih e.1).bind fun k keyDistinct => (ih e.2).bind fun v valueDistinct =>
              .pure ⟨keyDistinct, valueDistinct⟩
          refine (Ensures.mapM pairs).bind fun values each => ?_
          split
          · exact .throw _
          · rename_i compared
            have single : Value.hasDuplicate values = false := by simpa using compared
            have distinct : Distinct (.mapping values) :=
              Value.throughout_mapping.2 ⟨single, each⟩
            exact .pure (withLocalTag_distinct p.tag distinct)

/-- No key stands twice in any mapping inside a value that is read. -/
theorem value_distinct {text : String} (read : value text = .ok v) : v.Distinct := by
  cases document : readOne text with
  | error problem => simp [value, document, bind, Except.bind] at read
  | ok d =>
      have whole : d.value = .ok v := by simpa [value, document, bind, Except.bind] using read
      unfold Document.value at whole
      split at whole
      · rename_i root _
        cases result : (d.nodeValue maxDepth root).run (d.size * followsPerEvent) with
        | error problem =>
            rw [result] at whole
            cases whole
        | ok pair =>
            rw [result] at whole
            cases whole
            exact nodeValue_distinct d maxDepth root _ _ _ result
      · cases whole
        exact Value.IsScalar.distinct trivial

/-- A reader of documents lets no key stand twice in a mapping. -/
def KeepsKeysApart (reader : String → Except Error Value) : Prop :=
  ∀ text v, reader text = .ok v → v.Distinct

theorem value_keepsKeysApart : KeepsKeysApart value := fun _ _ => value_distinct

end WorkflowLint.Yaml
