import Mathlib.Data.Fintype.Card

namespace MatterJs.WaitGraph

/-! Directed graphs that edges are added to: when they stay without a cycle, and the search
that finds out beforehand. -/

universe u

variable {Node : Type u}

def Acyclic (edge : Node → Node → Prop) : Prop :=
  ∀ node, ¬Relation.TransGen edge node node

theorem Acyclic.mono {edge fewer : Node → Node → Prop} (acyclic : Acyclic edge)
    (isSub : ∀ first second, fewer first second → edge first second) : Acyclic fewer :=
  fun node cycle => acyclic node (Relation.TransGen.mono isSub node node cycle)

theorem Acyclic.addEdges {edge more : Node → Node → Prop} (acyclic : Acyclic edge)
    {source : Node} {targets : Set Node}
    (added : ∀ first second, more first second →
      edge first second ∨ first = source ∧ second ∈ targets)
    (noneLeadsBack : ∀ target ∈ targets, ¬Relation.ReflTransGen edge target source) :
    Acyclic more := by
  have split : ∀ first last, Relation.TransGen more first last →
      Relation.TransGen edge first last ∨ (Relation.ReflTransGen edge first source ∧
        ∃ target ∈ targets, Relation.ReflTransGen edge target last) := by
    intro first last path
    induction path with
    | single step =>
      rcases added _ _ step with old | ⟨isSource, isTarget⟩
      · exact Or.inl (.single old)
      · rw [isSource]
        exact Or.inr ⟨.refl, _, isTarget, .refl⟩
    | tail _ step induction =>
      rcases added _ _ step with old | ⟨isSource, isTarget⟩
      · rcases induction with earlier | ⟨toSource, target, member, fromTarget⟩
        · exact Or.inl (earlier.tail old)
        · exact Or.inr ⟨toSource, target, member, fromTarget.tail old⟩
      · rw [isSource] at induction
        rcases induction with earlier | ⟨_, target, member, fromTarget⟩
        · exact Or.inr ⟨earlier.to_reflTransGen, _, isTarget, .refl⟩
        · exact absurd fromTarget (noneLeadsBack target member)
  intro node cycle
  rcases split node node cycle with old | ⟨toSource, target, member, fromTarget⟩
  · exact acyclic node old
  · exact noneLeadsBack target member (fromTarget.trans toSource)

inductive Search (Node : Type u) where
  | found
  | examined (nodes : List Node)
  | outOfFuel
  deriving DecidableEq

variable (successors : Node → List Node) (target : Node)

def edge (first second : Node) : Prop :=
  second ∈ successors first

def Search.next (visit : Node → List Node → Search Node) (leftOut : Node → List Node → Bool)
    (search : Search Node) (node : Node) : Search Node :=
  match search with
  | .examined seen => if leftOut node seen then .examined seen else visit node seen
  | search => search

/-! ## What has been examined is closed -/

/-- The nodes of a search that began with some others: it has come through what follows them,
and has not come to the target. -/
structure ClosedOver (earlier examined : List Node) : Prop where
  keeps : ∀ node ∈ earlier, node ∈ examined
  closed : ∀ node ∈ examined, node ∈ earlier ∨
    (node ≠ target ∧ ∀ successor ∈ successors node, successor ∈ examined)

variable {successors target}

theorem ClosedOver.trans {first second third : List Node}
    (earlier : ClosedOver successors target first second)
    (later : ClosedOver successors target second third) :
    ClosedOver successors target first third where
  keeps := fun node member => later.keeps node (earlier.keeps node member)
  closed := by
    intro node member
    rcases later.closed node member with before | closed
    · rcases earlier.closed node before with atFirst | ⟨notTarget, closed⟩
      · exact Or.inl atFirst
      · exact Or.inr ⟨notTarget, fun successor isNext =>
          later.keeps successor (closed successor isNext)⟩
    · exact Or.inr closed

theorem foldl_next_of_not_examined {visit : Node → List Node → Search Node}
    {leftOut : Node → List Node → Bool} {search : Search Node}
    (ended : ∀ examined, search ≠ .examined examined) (nodes : List Node) :
    nodes.foldl (Search.next visit leftOut) search = search := by
  induction nodes with
  | nil => rfl
  | cons node nodes induction =>
    have same : Search.next visit leftOut search node = search := by
      cases search with
      | examined examined => exact absurd rfl (ended examined)
      | found => rfl
      | outOfFuel => rfl
    rw [List.foldl_cons, same]
    exact induction

theorem closedOver_foldl_next {visit : Node → List Node → Search Node}
    {leftOut : Node → List Node → Bool}
    (visits : ∀ node earlier examined, visit node earlier = .examined examined →
      ClosedOver successors target earlier examined ∧ node ∈ examined)
    (leavesOut : ∀ node examined, leftOut node examined → node ∈ examined)
    {nodes earlier examined : List Node}
    (ends : nodes.foldl (Search.next visit leftOut) (.examined earlier) = .examined examined) :
    ClosedOver successors target earlier examined ∧ ∀ node ∈ nodes, node ∈ examined := by
  induction nodes generalizing earlier with
  | nil =>
    cases ends
    exact ⟨⟨fun _ member => member, fun _ member => Or.inl member⟩, nofun⟩
  | cons node nodes induction =>
    rw [List.foldl_cons, Search.next] at ends
    by_cases isLeftOut : leftOut node earlier
    · simp only [isLeftOut] at ends
      rcases induction ends with ⟨closed, others⟩
      refine ⟨closed, fun other member => ?_⟩
      rcases List.mem_cons.mp member with same | later
      · rw [same]
        exact closed.keeps node (leavesOut node earlier isLeftOut)
      · exact others other later
    · simp only [isLeftOut] at ends
      cases visited : visit node earlier with
      | found =>
        rw [visited, foldl_next_of_not_examined (by simp)] at ends
        cases ends
      | outOfFuel =>
        rw [visited, foldl_next_of_not_examined (by simp)] at ends
        cases ends
      | examined between =>
        rw [visited] at ends
        rcases visits node earlier between visited with ⟨closed, isThere⟩
        rcases induction ends with ⟨closedLater, others⟩
        refine ⟨closed.trans closedLater, fun other member => ?_⟩
        rcases List.mem_cons.mp member with same | later
        · rw [same]
          exact closedLater.keeps node isThere
        · exact others other later

theorem foldl_next_eq_found {visit : Node → List Node → Search Node}
    {leftOut : Node → List Node → Bool} {nodes earlier : List Node}
    (found : nodes.foldl (Search.next visit leftOut) (.examined earlier) = .found) :
    ∃ node ∈ nodes, ∃ examined, visit node examined = .found := by
  induction nodes generalizing earlier with
  | nil => cases found
  | cons node nodes induction =>
    rw [List.foldl_cons] at found
    cases isNext : Search.next visit leftOut (.examined earlier) node with
    | examined between =>
      rw [isNext] at found
      rcases induction found with ⟨other, member, isFound⟩
      exact ⟨other, List.mem_cons_of_mem _ member, isFound⟩
    | outOfFuel =>
      rw [isNext, foldl_next_of_not_examined (by simp)] at found
      cases found
    | found =>
      rw [Search.next] at isNext
      split at isNext
      · cases isNext
      · exact ⟨node, List.mem_cons_self, earlier, isNext⟩

theorem foldl_next_ne_outOfFuel {visit : Node → List Node → Search Node}
    {leftOut : Node → List Node → Bool} (Enough : List Node → Prop)
    (visits : ∀ node earlier, Enough earlier → leftOut node earlier = false →
      visit node earlier ≠ .outOfFuel)
    (keeps : ∀ node earlier examined, visit node earlier = .examined examined →
      Enough earlier → Enough examined)
    {nodes earlier : List Node} (enough : Enough earlier) :
    nodes.foldl (Search.next visit leftOut) (.examined earlier) ≠ .outOfFuel := by
  induction nodes generalizing earlier with
  | nil => simp
  | cons node nodes induction =>
    rw [List.foldl_cons, Search.next]
    cases isLeftOut : leftOut node earlier with
    | true => exact induction enough
    | false =>
      cases visited : visit node earlier with
      | found => rw [foldl_next_of_not_examined (by simp)]; simp
      | outOfFuel => exact absurd visited (visits node earlier enough isLeftOut)
      | examined examined => exact induction (keeps node earlier examined visited enough)

section Examine

variable [DecidableEq Node]

variable (successors target) in
def examine : Nat → Node → List Node → Search Node
  | 0, _, _ => .outOfFuel
  | fuel + 1, node, examined =>
    if node = target then .found
    else (successors node).foldl
      (Search.next (examine fuel) fun successor examined => decide (successor ∈ examined))
      (.examined (node :: examined))

variable (successors target) in
def examineAll (fuel : Nat) (nodes : List Node) : Search Node :=
  nodes.foldl (Search.next (examine successors target fuel) fun _ _ => false) (.examined [])

theorem closedOver_examine {fuel : Nat} {node : Node} {earlier examined : List Node}
    (ends : examine successors target fuel node earlier = .examined examined) :
    ClosedOver successors target earlier examined ∧ node ∈ examined := by
  induction fuel generalizing node earlier examined with
  | zero => cases ends
  | succ fuel induction =>
    rw [examine] at ends
    by_cases isTarget : node = target
    · rw [if_pos isTarget] at ends
      cases ends
    · rw [if_neg isTarget] at ends
      rcases closedOver_foldl_next (fun _ _ _ visited => induction visited)
        (fun _ _ member => of_decide_eq_true member) ends with ⟨closed, successorsThere⟩
      refine ⟨⟨fun other member => closed.keeps other (List.mem_cons_of_mem _ member),
        fun other member => ?_⟩, closed.keeps node List.mem_cons_self⟩
      rcases closed.closed other member with before | closedLater
      · rcases List.mem_cons.mp before with same | atFirst
        · rw [same]
          exact Or.inr ⟨isTarget, successorsThere⟩
        · exact Or.inl atFirst
      · exact Or.inr closedLater

theorem not_reachable_of_examineAll {fuel : Nat} {nodes examined : List Node}
    (ends : examineAll successors target fuel nodes = .examined examined) {node : Node}
    (member : node ∈ nodes) : ¬Relation.ReflTransGen (edge successors) node target := by
  rcases closedOver_foldl_next (fun _ _ _ visited => closedOver_examine visited)
    (fun _ _ isLeftOut => absurd isLeftOut Bool.false_ne_true) ends with ⟨closed, allThere⟩
  have closedSet : ∀ other ∈ examined,
      other ≠ target ∧ ∀ successor ∈ successors other, successor ∈ examined := by
    intro other isThere
    rcases closed.closed other isThere with before | closed
    · cases before
    · exact closed
  intro path
  have reached : ∀ last, Relation.ReflTransGen (edge successors) node last → last ∈ examined := by
    intro last path
    induction path with
    | refl => exact allThere node member
    | tail _ step induction => exact (closedSet _ induction).2 _ step
  exact (closedSet target (reached target path)).1 rfl

theorem reachable_of_examine {fuel : Nat} {node : Node} {earlier : List Node}
    (found : examine successors target fuel node earlier = .found) :
    Relation.ReflTransGen (edge successors) node target := by
  induction fuel generalizing node earlier with
  | zero => cases found
  | succ fuel induction =>
    rw [examine] at found
    by_cases isTarget : node = target
    · rw [isTarget]
    · rw [if_neg isTarget] at found
      rcases foldl_next_eq_found found with ⟨successor, isNext, examined, isFound⟩
      exact Relation.ReflTransGen.head isNext (induction isFound)

theorem reachable_of_examineAll {fuel : Nat} {nodes : List Node}
    (found : examineAll successors target fuel nodes = .found) :
    ∃ node ∈ nodes, Relation.ReflTransGen (edge successors) node target := by
  rcases foldl_next_eq_found found with ⟨node, member, _, isFound⟩
  exact ⟨node, member, reachable_of_examine isFound⟩

/-! ## A search comes to an end -/

def unexamined [Fintype Node] (examined : List Node) : Finset Node :=
  Finset.univ.filter (· ∉ examined)

variable [Fintype Node]

theorem card_unexamined_le {earlier examined : List Node}
    (keeps : ∀ node ∈ earlier, node ∈ examined) :
    (unexamined examined).card ≤ (unexamined earlier).card := by
  apply Finset.card_le_card
  intro node member
  rw [unexamined, Finset.mem_filter] at member ⊢
  exact ⟨member.1, fun before => member.2 (keeps node before)⟩

theorem card_unexamined_cons_lt {node : Node} {earlier : List Node} (isNew : node ∉ earlier) :
    (unexamined (node :: earlier)).card < (unexamined earlier).card := by
  apply Finset.card_lt_card
  rw [Finset.ssubset_iff_of_subset]
  · refine ⟨node, ?_, ?_⟩
    · exact Finset.mem_filter.mpr ⟨Finset.mem_univ node, isNew⟩
    · intro member
      exact (Finset.mem_filter.mp member).2 List.mem_cons_self
  · intro other member
    rw [unexamined, Finset.mem_filter] at member ⊢
    exact ⟨member.1, fun before => member.2 (List.mem_cons_of_mem _ before)⟩

theorem examine_ne_outOfFuel {fuel : Nat} {node : Node} {earlier : List Node}
    (enough : (unexamined earlier).card + (if node ∈ earlier then 1 else 0) ≤ fuel)
    (positive : 0 < fuel) :
    examine successors target fuel node earlier ≠ .outOfFuel := by
  induction fuel generalizing node earlier with
  | zero => omega
  | succ fuel induction =>
    rw [examine]
    by_cases isTarget : node = target
    · rw [if_pos isTarget]
      simp
    · rw [if_neg isTarget]
      have fewer : (unexamined (node :: earlier)).card ≤ fuel := by
        by_cases before : node ∈ earlier
        · rw [if_pos before] at enough
          have le := @card_unexamined_le Node _ _ earlier (node :: earlier)
            (fun _ member => List.mem_cons_of_mem _ member)
          omega
        · have lt := card_unexamined_cons_lt before
          omega
      refine foldl_next_ne_outOfFuel (fun examined => (unexamined examined).card ≤ fuel) ?_ ?_ fewer
      · intro other examined le isNew
        have notThere : other ∉ examined := of_decide_eq_false isNew
        have lt := card_unexamined_cons_lt notThere
        apply induction
        · rw [if_neg notThere]
          omega
        · omega
      · intro other before examined visited le
        exact (card_unexamined_le (closedOver_examine visited).1.keeps).trans le

theorem examineAll_ne_outOfFuel (nodes : List Node) :
    examineAll successors target (Fintype.card Node + 1) nodes ≠ .outOfFuel := by
  refine foldl_next_ne_outOfFuel (fun _ => True) ?_ (fun _ _ _ _ _ => trivial) trivial
  intro node earlier _ _
  apply examine_ne_outOfFuel
  · have le : (unexamined earlier).card ≤ Fintype.card Node := Finset.card_le_univ _
    split <;> omega
  · omega

end Examine

end MatterJs.WaitGraph
