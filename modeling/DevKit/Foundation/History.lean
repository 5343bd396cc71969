import DevKit.Foundation.Bytes

namespace DevKit

/-!
# Rules about recorded histories

A history is the list of everything that has happened, oldest entry first.  A
rule says what must already have happened when an entry is recorded, and
`Always` says that every entry of a history obeyed the rule at the moment it
was recorded.  A history only grows at its end, so the one fact needed to keep
`Always` is `always_concat`: the old history obeys the rule, and so does the
new entry after it.
-/

/-- Every entry obeyed the rule when it was recorded. -/
def Always (rule : List Entry -> Entry -> Prop) (history : List Entry) : Prop :=
  forall before entry after, history = before ++ entry :: after -> rule before entry

theorem always_nil (rule : List Entry -> Entry -> Prop) : Always rule [] := by
  intro before entry after impossible
  exact absurd impossible.symm (List.append_ne_nil_of_right_ne_nil _ (List.cons_ne_nil _ _))

theorem always_concat {rule : List Entry -> Entry -> Prop} {history : List Entry} {entry : Entry} :
    Always rule (history ++ [entry]) <-> Always rule history ∧ rule history entry := by
  constructor
  · intro holds
    refine ⟨fun before other after split => ?_, holds history entry [] rfl⟩
    apply holds before other (after ++ [entry])
    rw [split, List.append_assoc, List.cons_append]
  · rintro ⟨earlier, last⟩ before other after split
    rcases List.eq_nil_or_concat after with empty | ⟨initial, final, ending⟩
    · subst after
      have same := List.append_inj' split rfl
      rw [← same.1, ← List.singleton_inj.mp same.2]
      exact last
    · subst after
      rw [List.concat_eq_append, ← List.cons_append, ← List.append_assoc] at split
      exact earlier before other initial (List.append_inj' split rfl).1

theorem Always.mono {rule weaker : List Entry -> Entry -> Prop} {history : List Entry}
    (holds : Always rule history)
    (implies : forall before entry, rule before entry -> weaker before entry) :
    Always weaker history :=
  fun before entry after split => implies before entry (holds before entry after split)

/-- What always held has held up to every entry. -/
theorem Always.before {rule : List Entry -> Entry -> Prop} {history before after : List Entry} {entry : Entry}
    (holds : Always rule history) (split : history = before ++ entry :: after) : Always rule before := by
  intro prior other later inner
  apply holds prior other (later ++ entry :: after)
  rw [split, inner, List.append_assoc, List.cons_append]

/-- The property held of the history at every moment. -/
def Throughout (property : List Entry -> Prop) (history : List Entry) : Prop :=
  forall earlier, earlier <+: history -> property earlier

theorem throughout_nil {property : List Entry -> Prop} (empty : property []) : Throughout property [] := by
  intro earlier inside
  rw [List.prefix_nil.mp inside]
  exact empty

theorem throughout_concat {property : List Entry -> Prop} {history : List Entry} {entry : Entry}
    (holds : Throughout property history) (now : property (history ++ [entry])) :
    Throughout property (history ++ [entry]) := by
  intro earlier inside
  rcases List.prefix_concat_iff.mp inside with whole | shorter
  · rw [whole]
    exact now
  · exact holds earlier shorter

/-- The entries recorded since the last one that carries the mark. -/
def since (mark : Entry -> Bool) (history : List Entry) : List Entry :=
  history.rtakeWhile (fun entry => !mark entry)

theorem since_concat_unmarked {mark : Entry -> Bool} {history : List Entry} {entry : Entry}
    (unmarked : mark entry = false) :
    since mark (history ++ [entry]) = since mark history ++ [entry] := by
  rw [since, List.rtakeWhile_concat, unmarked]
  rfl

theorem since_concat_marked {mark : Entry -> Bool} {history : List Entry} {entry : Entry}
    (marked : mark entry = true) : since mark (history ++ [entry]) = [] := by
  rw [since, List.rtakeWhile_concat, marked]
  rfl

theorem since_append_unmarked {mark : Entry -> Bool} {history tail : List Entry}
    (unmarked : forall entry, entry ∈ tail -> mark entry = false) :
    since mark (history ++ tail) = since mark history ++ tail := by
  induction tail using List.reverseRecOn with
  | nil => rw [List.append_nil, List.append_nil]
  | append_singleton entries entry inductionHypothesis =>
      have earlier := inductionHypothesis fun other member => unmarked other (List.mem_append_left _ member)
      have last := unmarked entry (List.mem_append_right _ (List.mem_singleton_self entry))
      rw [← List.append_assoc, since_concat_unmarked last, earlier, List.append_assoc]

theorem unmarked_of_mem_since {mark : Entry -> Bool} {history : List Entry} {entry : Entry}
    (member : entry ∈ since mark history) : mark entry = false := by
  have unmarked := List.mem_rtakeWhile_imp member
  exact Bool.not_eq_true' _ ▸ unmarked

/-- A place in the recent entries is a place in the whole history. -/
theorem since_split {mark : Entry -> Bool} {history before after : List Entry} {entry : Entry}
    (split : since mark history = before ++ entry :: after) :
    exists earlier, history = earlier ++ entry :: after ∧ since mark earlier = before := by
  have whole : history = history.rdropWhile (fun entry => !mark entry) ++ since mark history := by
    rw [since, List.rdropWhile, List.rtakeWhile, ← List.reverse_append, List.takeWhile_append_dropWhile,
      List.reverse_reverse]
  have closed : since mark (history.rdropWhile (fun entry => !mark entry)) = [] := by
    rw [since, List.rtakeWhile_eq_nil_iff]
    exact fun nonempty => List.rdropWhile_last_not _ _ nonempty
  refine ⟨history.rdropWhile (fun entry => !mark entry) ++ before, ?_, ?_⟩
  · rw [split] at whole
    rw [List.append_assoc]
    exact whole
  · rw [since_append_unmarked, closed, List.nil_append]
    intro other member
    apply unmarked_of_mem_since
    rw [split]
    exact List.mem_append_left _ member

theorem filterMap_concat_some {pick : Entry -> Option X} {history : List Entry} {entry : Entry} {found : X}
    (picked : pick entry = some found) :
    (history ++ [entry]).filterMap pick = history.filterMap pick ++ [found] := by
  rw [List.filterMap_append, List.filterMap_cons_some picked, List.filterMap_nil]

theorem filterMap_concat_none {pick : Entry -> Option X} {history : List Entry} {entry : Entry}
    (skipped : pick entry = none) : (history ++ [entry]).filterMap pick = history.filterMap pick := by
  rw [List.filterMap_append, List.filterMap_cons_none skipped, List.filterMap_nil, List.append_nil]

/-- What the most recent entry that matches was recorded with. -/
def latest (pick : Entry -> Option X) (history : List Entry) : Option X :=
  (history.filterMap pick).getLast?

theorem latest_concat_some {pick : Entry -> Option X} {history : List Entry} {entry : Entry} {found : X}
    (picked : pick entry = some found) : latest pick (history ++ [entry]) = some found := by
  rw [latest, filterMap_concat_some picked, List.getLast?_concat]

theorem latest_concat_none {pick : Entry -> Option X} {history : List Entry} {entry : Entry}
    (skipped : pick entry = none) : latest pick (history ++ [entry]) = latest pick history := by
  rw [latest, filterMap_concat_none skipped, latest]

theorem latest_concat (pick : Entry -> Option X) (history : List Entry) (entry : Entry) :
    latest pick (history ++ [entry]) = (pick entry).or (latest pick history) := by
  cases picked : pick entry with
  | none => rw [latest_concat_none picked, Option.none_or]
  | some found => rw [latest_concat_some picked, Option.some_or]

theorem latest_append_none {pick : Entry -> Option X} {history tail : List Entry}
    (skipped : forall entry, entry ∈ tail -> pick entry = none) :
    latest pick (history ++ tail) = latest pick history := by
  rw [latest, List.filterMap_append, List.filterMap_eq_nil_iff.mpr skipped, List.append_nil, latest]

/-- The history behind the last entry that matches is determined. -/
theorem behind_latest_eq {pick : Entry -> Option X} {first second before after : List Entry} {entry other : Entry}
    (split : first ++ entry :: before = second ++ other :: after) (found : pick entry ≠ none)
    (alsoFound : pick other ≠ none) (clear : forall event, event ∈ before -> pick event = none)
    (alsoClear : forall event, event ∈ after -> pick event = none) : before = after := by
  rcases List.append_eq_append_iff.mp split with ⟨between, _, rest⟩ | ⟨between, _, rest⟩
  · cases between with
    | nil => exact (List.cons.inj rest).2
    | cons head tail =>
        refine absurd (clear other ?_) alsoFound
        rw [(List.cons.inj rest).2]
        exact List.mem_append_right _ List.mem_cons_self
  · cases between with
    | nil => exact (List.cons.inj rest).2.symm
    | cons head tail =>
        refine absurd (alsoClear entry ?_) found
        rw [(List.cons.inj rest).2]
        exact List.mem_append_right _ List.mem_cons_self

end DevKit
