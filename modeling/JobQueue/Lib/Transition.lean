import Mathlib.Tactic

/-!
# Runs of a labelled step relation

A system is a relation `step : State → Label → State → Prop`; a run is a finite
sequence of steps, listed by its labels.  A property that each step keeps holds
along a whole run, and a run of a restricted system is a run of the system.

The last section is about loops.  A loop over distinct items in which at most
one item can be seen by an observer looks to this observer like that one
iteration, or like nothing at all.
-/

/-- `Run step s labels t`: the steps `labels` lead from `s` to `t`. -/
inductive Run {State Label : Type} (step : State → Label → State → Prop) :
    State → List Label → State → Prop
  | nil (s : State) : Run step s [] s
  | cons {s t u : State} {label : Label} {labels : List Label} :
      step s label t → Run step t labels u → Run step s (label :: labels) u

namespace Run

variable {State Label : Type} {step : State → Label → State → Prop}
variable {s t u : State} {labels : List Label}

theorem single {label : Label} (h : step s label t) : Run step s [label] t :=
  .cons h (.nil t)

/-- The invariant rule: what every step of the run keeps holds at its end.  A
step may use that its label occurs in the run. -/
theorem invariant (Inv : State → Prop) (h : Run step s labels t)
    (hstep : ∀ s label t, label ∈ labels → Inv s → step s label t → Inv t)
    (hs : Inv s) : Inv t := by
  induction h with
  | nil s => exact hs
  | @cons s t u label rest hfirst _ ih =>
      have ht : Inv t := hstep s label t List.mem_cons_self hs hfirst
      exact ih (fun s l t hl => hstep s l t (List.mem_cons_of_mem label hl)) ht

/-- A run of a system is a run of every system that allows its steps. -/
theorem mono {step' : State → Label → State → Prop} (h : Run step s labels t)
    (himp : ∀ s label t, step s label t → step' s label t) : Run step' s labels t := by
  induction h with
  | nil s => exact .nil s
  | cons hstep _ ih => exact .cons (himp _ _ _ hstep) ih

/-- What every step says of its label holds of the labels of a run. -/
theorem forall_label {P : Label → Prop} (h : Run step s labels t)
    (hstep : ∀ s label t, step s label t → P label) : ∀ label ∈ labels, P label := by
  induction h with
  | nil s => exact fun _ hmem => (List.not_mem_nil hmem).elim
  | cons hfirst _ ih => exact List.forall_mem_cons.mpr ⟨hstep _ _ _ hfirst, ih⟩

/-- The simulation rule: where every step from a state of the invariant shows a
note, the steps of a run can be annotated with what they show. -/
theorem annotate {Note : Type} {shows : State → Label → Note → State → Prop}
    (Inv : State → Prop) (h : Run step s labels t)
    (hstep : ∀ s label t, Inv s → step s label t → Inv t ∧ ∃ note, shows s label note t)
    (hs : Inv s) :
    ∃ notes : List (Label × Note), notes.map Prod.fst = labels ∧
      Run (fun s note t => step s note.1 t ∧ shows s note.1 note.2 t) s notes t := by
  induction h with
  | nil s => exact ⟨[], rfl, .nil s⟩
  | @cons s u t label rest hfirst _ ih =>
      obtain ⟨hu, note, hnote⟩ := hstep s label u hs hfirst
      obtain ⟨notes, hlabels, hrun⟩ := ih hu
      exact ⟨(label, note) :: notes, by rw [List.map_cons, hlabels], .cons ⟨hfirst, hnote⟩ hrun⟩

/-- The projection rule: where every step is a step of another system or leaves what this
system sees unchanged, a run is a run of the other system. -/
theorem project {State' Label' : Type} {step' : State' → Label' → State' → Prop}
    (sees : State → State') (visible : Label → Option Label') (Inv : State → Prop)
    (h : Run step s labels t)
    (hstep : ∀ s label t, label ∈ labels → Inv s → step s label t → Inv t ∧
      (visible label = none → sees t = sees s) ∧
      ∀ label', visible label = some label' → step' (sees s) label' (sees t))
    (hs : Inv s) : Run step' (sees s) (labels.filterMap visible) (sees t) ∧ Inv t := by
  induction h with
  | nil s => exact ⟨.nil (sees s), hs⟩
  | @cons s u t label rest hfirst _ ih =>
      obtain ⟨hu, hhidden, hseen⟩ := hstep s label u List.mem_cons_self hs hfirst
      obtain ⟨hrun, ht⟩ :=
        ih (fun s l t hl => hstep s l t (List.mem_cons_of_mem label hl)) hu
      refine ⟨?_, ht⟩
      rw [List.filterMap_cons]
      cases hvisible : visible label with
      | none =>
          rw [← hhidden hvisible]
          exact hrun
      | some label' => exact .cons (hseen label' hvisible) hrun

/-- The run of another system that makes a step for every step. -/
theorem map {State' Label' : Type} {step' : State' → Label' → State' → Prop}
    (sees : State → State') (rename : Label → Label') (h : Run step s labels t)
    (hstep : ∀ s label t, step s label t → step' (sees s) (rename label) (sees t)) :
    Run step' (sees s) (labels.map rename) (sees t) := by
  induction h with
  | nil s => exact .nil (sees s)
  | cons hfirst _ ih => exact .cons (hstep _ _ _ hfirst) ih

/-- A run of two sequences of labels passes through a state between them. -/
theorem split {first second : List Label} (h : Run step s (first ++ second) t) :
    ∃ u, Run step s first u ∧ Run step u second t := by
  induction first generalizing s with
  | nil => exact ⟨s, .nil s, h⟩
  | cons label rest ih =>
      rw [List.cons_append] at h
      cases h with
      | cons hfirst hrest =>
          obtain ⟨u, hu, ht⟩ := ih hrest
          exact ⟨u, .cons hfirst hu, ht⟩

theorem append {first second : List Label} (h : Run step s first t) (h' : Run step t second u) :
    Run step s (first ++ second) u := by
  induction h with
  | nil s => exact h'
  | cons hstep _ ih => exact .cons hstep (ih h')

/-- The invariant rule with the past: a step may look back at the run that has led to it. -/
theorem invariant_past (Inv : List Label → State → Prop) (h : Run step s labels t)
    (hstep : ∀ past u label v, Run step s past u → Inv past u → step u label v →
      Inv (past ++ [label]) v)
    (hs : Inv [] s) : Inv labels t := by
  induction labels using List.reverseRecOn generalizing t with
  | nil =>
      cases h
      exact hs
  | append_singleton past label ih =>
      obtain ⟨u, hpast, hlast⟩ := h.split
      cases hlast with
      | cons hfirst hnil =>
          cases hnil
          exact hstep past u label t hpast (ih hpast) hfirst

/-- A run of blocks that are runs themselves. -/
theorem flatten {block : State → List Label → State → Prop} {blocks : List (List Label)}
    (h : Run block s blocks t) (hblock : ∀ s labels t, block s labels t → Run step s labels t) :
    Run step s blocks.flatten t := by
  induction h with
  | nil s => exact .nil s
  | cons hfirst _ ih => exact (hblock _ _ _ hfirst).append ih

end Run

/-! ## Loops seen by one observer -/

section Loops

variable {State Item View : Type} (observe : State → View) (effect : Item → State → State)

/-- An observer who sees no iteration of a loop sees no change. -/
theorem observe_foldl_of_unseen (items : List Item)
    (hunseen : ∀ item ∈ items, ∀ s, observe (effect item s) = observe s) (s : State) :
    observe (items.foldl (fun t item => effect item t) s) = observe s := by
  induction items generalizing s with
  | nil => rfl
  | cons item rest ih =>
      have hrest : ∀ other ∈ rest, ∀ s, observe (effect other s) = observe s :=
        fun other hother => hunseen other (List.mem_cons_of_mem item hother)
      rw [List.foldl_cons, ih hrest]
      exact hunseen item List.mem_cons_self s

/-- An observer who sees only the iteration for `item` sees this iteration,
started in a state that looks like the first one. -/
theorem observe_foldl_of_mem {items : List Item} {item : Item} (hmem : item ∈ items)
    (hnodup : items.Nodup)
    (hunseen : ∀ other ∈ items, other ≠ item → ∀ s, observe (effect other s) = observe s)
    (s : State) :
    ∃ t, observe t = observe s ∧
      observe (items.foldl (fun t item => effect item t) s) = observe (effect item t) := by
  induction items generalizing s with
  | nil => cases hmem
  | cons head rest ih =>
      rw [List.nodup_cons] at hnodup
      have hrest : ∀ other ∈ rest, other ≠ item → ∀ s, observe (effect other s) = observe s :=
        fun other hother => hunseen other (List.mem_cons_of_mem head hother)
      rw [List.foldl_cons]
      by_cases hhead : head = item
      · -- this is the iteration the observer sees; it is not repeated in `rest`
        subst hhead
        refine ⟨s, rfl, observe_foldl_of_unseen observe effect rest ?_ _⟩
        intro other hother
        exact hrest other hother fun heq => hnodup.1 (heq ▸ hother)
      · -- the first iteration is unseen, and the one for `item` is still to come
        have htail : item ∈ rest := (List.mem_cons.mp hmem).resolve_left (Ne.symm hhead)
        obtain ⟨t, ht, hfold⟩ := ih htail hnodup.2 hrest (effect head s)
        exact ⟨t, ht.trans (hunseen head List.mem_cons_self hhead s), hfold⟩

end Loops
