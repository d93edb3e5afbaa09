import SchemaConcord.Proofs.Lists
import SchemaConcord.Route.Extract

/-!
# The nodes of a tree

A walk goes through a tree level by level, as many levels as the tree is deep. It comes upon the root, upon whatever
lies in the tree of one of its parts, and upon nothing else (`mem_walk`). What a tree does to the database is what its
nodes do, each for itself: an operation is found just when some node of the tree shows it, however deep that node lies,
so that a tree has its root's operations and those of its parts (`operations_union`).
-/

namespace SchemaConcord.Source.Node

/-- A node lies in a tree: it is the root, or lies in the tree of a part of the root. -/
inductive Within (m : Node) : Node → Prop where
  | root : Within m m
  | part {n c : Node} (hc : c ∈ n.children) (h : Within m c) : Within m n

theorem within_iff {m n : Node} : Within m n ↔ m = n ∨ ∃ c ∈ n.children, Within m c := by
  constructor
  · rintro (_ | ⟨hc, h⟩)
    · exact .inl rfl
    · exact .inr ⟨_, hc, h⟩
  · rintro (rfl | ⟨c, hc, h⟩)
    · exact .root
    · exact .part hc h

/-! ## Depth -/

theorem depthAll_append (ms ns : List Node) : depthAll (ms ++ ns) = max (depthAll ms) (depthAll ns) := by
  induction ms with
  | nil => simp [depthAll]
  | cons m ms ih => rw [List.cons_append, depthAll, depthAll, ih, Nat.max_assoc]

theorem depth_eq (n : Node) : n.depth = depthAll n.children + 1 := by
  cases n <;> simp [depth, children, depthAll, depthAll_append]

theorem depth_le_depthAll {n : Node} {ns : List Node} (h : n ∈ ns) : n.depth ≤ depthAll ns := by
  induction ns with
  | nil => cases h
  | cons m ns ih =>
    rw [depthAll]
    rcases List.mem_cons.mp h with rfl | h
    · exact Nat.le_max_left ..
    · exact Nat.le_trans (ih h) (Nat.le_max_right ..)

theorem depth_pos (n : Node) : 0 < n.depth := by
  rw [depth_eq]
  exact Nat.succ_pos _

theorem depth_lt_of_mem_children {n c : Node} (h : c ∈ n.children) : c.depth < n.depth := by
  rw [depth_eq n]
  exact Nat.lt_succ_of_le (depth_le_depthAll h)

/-! ## The walk -/

/-- Enough levels of a row show all that lies in its trees. -/
theorem mem_levelsOf {m : Node} {levels : Nat} {row : List Node} (h : ∀ n ∈ row, n.depth ≤ levels) :
    m ∈ levelsOf levels row ↔ ∃ n ∈ row, Within m n := by
  induction levels generalizing row with
  | zero =>
    refine iff_of_false (fun hm => nomatch hm) ?_
    rintro ⟨n, hn, -⟩
    exact absurd (h n hn) (Nat.not_le_of_gt n.depth_pos)
  | succ levels ih =>
    have hparts : ∀ c ∈ row.flatMap children, c.depth ≤ levels := by
      intro c hc
      obtain ⟨n, hn, hc⟩ := List.mem_flatMap.mp hc
      exact Nat.le_of_lt_succ (Nat.lt_of_lt_of_le (depth_lt_of_mem_children hc) (h n hn))
    rw [levelsOf, List.mem_append, ih hparts]
    constructor
    · rintro (hm | ⟨c, hc, hwithin⟩)
      · exact ⟨m, hm, .root⟩
      · obtain ⟨n, hn, hc⟩ := List.mem_flatMap.mp hc
        exact ⟨n, hn, .part hc hwithin⟩
    · rintro ⟨n, hn, hwithin⟩
      rcases within_iff.mp hwithin with rfl | ⟨c, hc, hwithin⟩
      · exact .inl hn
      · exact .inr ⟨c, List.mem_flatMap.mpr ⟨n, hn, hc⟩, hwithin⟩

theorem mem_walk {m n : Node} : m ∈ n.walk ↔ Within m n := by
  rw [walk, mem_levelsOf (List.forall_mem_singleton.mpr (Nat.le_refl _))]
  simp

/-! ## Operations -/

theorem mem_operations {op : Operation} {n : Node} :
    op ∈ n.operations ↔ ∃ m, Within m n ∧ op ∈ m.ownOperations := by
  rw [operations, List.mem_eraseDups, List.mem_flatMap]
  simp only [mem_walk]

/-- No operation is found twice; those of a tree are the operations of its root together with those of its parts, that
is, all that nodes anywhere in it show. -/
theorem operations_union (n : Node) : n.operations.Nodup ∧
    (∀ op, op ∈ n.operations ↔ op ∈ n.ownOperations ∨ ∃ c ∈ n.children, op ∈ c.operations) ∧
    ∀ op, op ∈ n.operations ↔ ∃ m, Within m n ∧ op ∈ m.ownOperations := by
  refine ⟨nodup_eraseDups _, fun op => ?_, fun op => mem_operations⟩
  rw [mem_operations]
  constructor
  · rintro ⟨m, hm, hop⟩
    rcases within_iff.mp hm with rfl | ⟨c, hc, hm⟩
    · exact .inl hop
    · exact .inr ⟨c, hc, mem_operations.mpr ⟨m, hm, hop⟩⟩
  · rintro (hop | ⟨c, hc, hop⟩)
    · exact ⟨n, .root, hop⟩
    · obtain ⟨m, hm, hop⟩ := mem_operations.mp hop
      exact ⟨m, .part hc hm, hop⟩

/-- Two calls of one kind, one of them in the body of a function without a name. -/
example : (other [.call (.attribute (.attribute (.name "db") "orders") "find_many") [] [],
    .lambda (.other []) (.call (.attribute (.attribute (.name "db") "orders") "find_first") [] [])]).operations =
      [⟨.select, "orders", none⟩] := by
  decide +kernel

end SchemaConcord.Source.Node
