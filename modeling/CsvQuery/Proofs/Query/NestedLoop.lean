import CsvQuery.Proofs.Query.Tables
import CsvQuery.Proofs.Source.Settled

/-!
The join of two lists of rows is the nested loop over them. The rows of the joined table are
gathered by the text of their key cells first, and what they make with a row of the left side is
given out one by one; still the joined rows come in the order of the loop, and nothing comes
behind the last of them.
-/

namespace CsvQuery

namespace Row

/-- The nested loop: each row of the left side, and for each of them, each row of the right side
whose cell has the same text. -/
def nestedLoop (left right : List Row) (p q : Nat) : List Row :=
  left.flatMap fun l => right.flatMap fun r => if r.cell q = l.cell p then [l ++ r] else []

lemma map_filter_eq_flatMap (l : Row) (right : List Row) (p q : Nat) :
    (right.filter (·.cell q == l.cell p)).map (l ++ ·) =
      right.flatMap fun r => if r.cell q = l.cell p then [l ++ r] else [] := by
  induction right with
  | nil => rfl
  | cons r right ih =>
    rw [List.flatMap_cons, ← ih, List.filter_cons]
    by_cases h : r.cell q = l.cell p
    · simp [h]
    · simp [h]

end Row

lemma Step.flatMap_joined (left right : List Row) (p q : Nat) :
    left.flatMap (joined (.ofRows q right) p) = Row.nestedLoop left right p q := by
  refine List.flatMap_congr fun l _ => ?_
  rw [joined, Buckets.find_eq_filter]
  exact Row.map_filter_eq_flatMap l right p q

namespace Step

lemma settles_scan (t : Table) : t.scan.Settles := by
  intro ⟨rest, count⟩ hs
  cases rest with
  | nil => rfl
  | cons record rest => cases record <;> cases hs

/-- **No step of a plan goes on behind its end.** -/
theorem settles [Sorter] (step : Step) : step.source.Settles := by
  induction step with
  | scan table => exact (settles_scan table).mapError _
  | join kind table right p step ih =>
    rw [source, Source.joined]
    exact ih.expand _ _ _ _
  | filter condition schema step ih => exact ih.filter _
  | aggregate tables fields positions columns step ih =>
    rw [source, Source.grouped]
    exact Source.settles_gather _ _ _
  | sort keys step ih =>
    rw [source, Source.sorted]
    exact Source.settles_gather _ _ _
  | limit most step ih => exact ih.take most
  | project header positions step ih => exact ih.map _

end Step

namespace Source

variable {t : Table} {field : String} {q : Nat}

/-- **A join is the nested loop.** A table of readable records is gathered by any of its columns,
and joining it to a source delivers every row of the source with each row of the table that has
the same text there, in the order of the loop, and then the end: whatever the source is, as long
as it delivers rows, and whatever the kind of the join. Every step of a plan that yields rows is
such a source. -/
theorem delivers_joined [Sorter] (ht : t.Readable)
    (hq : t.schema.resolveQualified t.name field = .ok q) :
    ∃ right, (t.bucketed field).outcome = .ok right ∧
      (∀ (ε : Type) (src : Source ε) (rows : List Row) (p : Nat), src.Delivers src.start rows →
        (src.joined t.name right p).Delivers (src.joined t.name right p).start
          (Row.nestedLoop rows t.relation.rows p q)) ∧
      ∀ (kind : JoinKind) (step : Step) (rows : List Row) (p : Nat), step.Yields rows →
        (Step.join kind t.name right p step).source.Delivers
          (Step.join kind t.name right p step).source.start
          (Row.nestedLoop rows t.relation.rows p q) := by
  have hjoined : ∀ (ε : Type) (src : Source ε) (rows : List Row) (p : Nat),
      src.Delivers src.start rows →
      (src.joined t.name (.ofRows q t.relation.rows) p).Delivers
        (src.joined t.name (.ofRows q t.relation.rows) p).start
        (Row.nestedLoop rows t.relation.rows p q) := by
    intro ε src rows p hrows
    rw [← Step.flatMap_joined]
    exact hrows.expand
  refine ⟨_, Table.bucketed_of_readable ht hq, hjoined, fun kind step rows p hyields => ?_⟩
  exact hjoined Halt step.source rows p (step.settles.delivers hyields)

attribute [local instance] Sorter.standard

/-- Orders, one of them without the number of its shop. -/
def orders : Table :=
  ⟨"orders", ["id", "shop"],
    [.ok ["1", "20"], .ok ["2", "30"], .ok ["3"], .ok ["4", "20"], .ok ["5", "020"]]⟩

/-- Shops, two of them with one number and one of them with none. -/
def shops : Table :=
  ⟨"shops", ["id", "city"],
    [.ok ["20", "a", "x"], .ok ["", "b"], .ok ["20"], .ok ["10", "c"]]⟩

theorem delivers_joined_orders :
    shops.Readable ∧ shops.schema.resolveQualified "shops" "id" = .ok 0 ∧
    (Step.scan orders).Yields [["1", "20"], ["2", "30"], ["3", ""], ["4", "20"], ["5", "020"]] ∧
    ∃ right, (shops.bucketed "id").outcome = .ok right ∧
      (Step.join .left "shops" right 1 (.scan orders)).source.Delivers
        (Step.join .left "shops" right 1 (.scan orders)).source.start
        [["1", "20", "20", "a"], ["1", "20", "20", ""], ["3", "", "", "b"], ["4", "20", "20", "a"],
          ["4", "20", "20", ""]] := by
  have ht : shops.Readable := Table.readable_of_isOk rfl
  have hq : shops.schema.resolveQualified "shops" "id" = .ok 0 := by decide
  have hyields : (Step.scan orders).Yields
      [["1", "20"], ["2", "30"], ["3", ""], ["4", "20"], ["5", "020"]] := Step.yields_scan rfl
  obtain ⟨right, hright, -, hsteps⟩ := delivers_joined ht hq
  exact ⟨ht, hq, hyields, right, hright, hsteps .left _ _ 1 hyields⟩

end Source

end CsvQuery
