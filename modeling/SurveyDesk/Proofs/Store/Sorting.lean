import Mathlib
import SurveyDesk.Proofs.Store.Answering
import SurveyDesk.Proofs.Text.Basic
import SurveyDesk.Proofs.Value.Text

/-! In which order documents are found. Documents are sorted by one path after the other, the last
path first, and each time those that tie on the path are left as they were; so in the end the first
path on which two documents differ decides, and documents that differ on none stand as they were
inserted. -/
namespace SurveyDesk

/-! ## Sorting by ranks -/

section
variable {α β : Type} [LinearOrder β] {rank : α → β} {items ties : List α}

/-- Items in the order of their ranks, those of one rank as they were. -/
def byRank (rank : α → β) (items : List α) : List α :=
  items.mergeSort fun first second => decide (rank first ≤ rank second)

private theorem ranks_trans (first second third : α)
    (before : decide (rank first ≤ rank second) = true)
    (after : decide (rank second ≤ rank third) = true) : decide (rank first ≤ rank third) = true :=
  decide_eq_true (le_trans (of_decide_eq_true before) (of_decide_eq_true after))

private theorem ranks_total (first second : α) :
    (decide (rank first ≤ rank second) || decide (rank second ≤ rank first)) = true := by
  rw [Bool.or_eq_true, decide_eq_true_iff, decide_eq_true_iff]
  exact le_total _ _

/-- Sorting looks at no other items than those that are sorted. -/
theorem mergeSort_congr {ahead other : α → α → Bool}
    (same : ∀ first ∈ items, ∀ second ∈ items, ahead first second = other first second) :
    items.mergeSort ahead = items.mergeSort other := by
  have sorted := List.map_mergeSort (r := ahead) (s := other) (f := id) same
  rwa [List.map_id, List.map_id] at sorted

theorem byRank_perm (rank : α → β) (items : List α) : (byRank rank items).Perm items :=
  List.mergeSort_perm _ _

theorem byRank_sorted (rank : α → β) (items : List α) :
    (byRank rank items).Pairwise fun first second => rank first ≤ rank second :=
  (List.pairwise_mergeSort ranks_trans ranks_total items).imp of_decide_eq_true

/-- Items of one rank keep their order. -/
theorem sublist_byRank (same : ties.Pairwise fun first second => rank first = rank second)
    (within : ties.Sublist items) : ties.Sublist (byRank rank items) :=
  List.sublist_mergeSort ranks_trans ranks_total
    (same.imp fun tie => decide_eq_true (le_of_eq tie)) within

/-- The items of a rank are the same ones in the same order. -/
theorem filter_byRank (rank : α → β) (items : List α) (wanted : β) :
    (byRank rank items).filter (fun item => rank item = wanted) =
      items.filter fun item => rank item = wanted := by
  have same : (items.filter fun item => rank item = wanted).Pairwise
      fun first second => rank first = rank second := by
    refine List.pairwise_of_forall_mem_list fun first left second right => ?_
    have left := of_decide_eq_true (List.mem_filter.mp left).2
    have right := of_decide_eq_true (List.mem_filter.mp right).2
    exact left.trans right.symm
  have kept := (sublist_byRank same List.filter_sublist).filter fun item => rank item = wanted
  simp only [List.filter_filter, Bool.and_self] at kept
  exact (kept.eq_of_length ((byRank_perm rank items).filter _).length_eq.symm).symm

/-- Sorting items that are in some order by ranks puts them in the order of their ranks, and those
of one rank in the order in which they were. -/
theorem byRank_lexicographic {behind : α → α → Prop} (ordered : items.Pairwise behind) :
    (byRank rank items).Pairwise fun first second =>
      rank first < rank second ∨ rank first = rank second ∧ behind first second := by
  rw [List.pairwise_iff_forall_sublist]
  intro first second pair
  have sorted := List.pairwise_iff_forall_sublist.mp (byRank_sorted rank items) pair
  refine (lt_or_eq_of_le sorted).imp_right fun tie => ⟨tie, ?_⟩
  have kept := pair.filter fun item => rank item = rank first
  rw [filter_byRank, List.filter_cons_of_pos (by simp), List.filter_cons_of_pos (by simp [tie]),
    List.filter_nil] at kept
  exact List.pairwise_iff_forall_sublist.mp ordered (kept.trans List.filter_sublist)

end

/-- Texts in the order of the numbers of their code points. -/
instance : LinearOrder Text :=
  LinearOrder.lift' (fun text => text.points.map Point.code) fun _ _ same =>
    Text.points_injective (List.map_injective_iff.mpr (fun _ _ => Point.code_injective) same)

theorem Text.before_iff_lt {s t : Text} : s.before t = true ↔ s < t := decide_eq_true_iff

namespace SortSpec

/-! ## The order of documents -/

/-- Nothing stands at a path: it leads nowhere or to null. -/
def Vacant : Option Value → Prop
  | none | some .null => True
  | _ => False

/-- What stands at a path ranks below what stands there in another document. Nothing ranks below
everything else. -/
inductive Below : Option Value → Option Value → Prop
  | vacant (nothing : Vacant first) (something : ¬ Vacant second) : Below first second
  | number (less : m < n) : Below (some (.int m)) (some (.int n))
  | text (less : s.before t) : Below (some (.str s)) (some (.str t))

/-- Two documents tie on a path: the same stands there, or nothing in either. -/
def Ties (path : Text) (first second : Document) : Prop :=
  first.named.at? path = second.named.at? path ∨
    Vacant (first.named.at? path) ∧ Vacant (second.named.at? path)

/-- Two documents tie on every path of a specification. -/
def Tied (spec : SortSpec) (first second : Document) : Prop :=
  ∀ path ∈ Entries.keys spec, Ties path first second

/-- One document precedes another: on the first path on which they do not tie it ranks below the
other if the path is ascending, and above it if the path is descending. -/
inductive Precedes : SortSpec → Document → Document → Prop
  | ascending (below : Below (first.named.at? path) (second.named.at? path)) :
      Precedes ((path, .int 1) :: rest) first second
  | descending (above : Below (second.named.at? path) (first.named.at? path)) :
      Precedes ((path, .int (-1)) :: rest) first second
  | behind (ties : Ties path first second) (later : Precedes rest first second) :
      Precedes ((path, direction) :: rest) first second

/-- What stands at a path in documents is all whole numbers or all texts, as far as anything
does. -/
def OneKind (path : Text) (documents : List Document) : Prop :=
  (∀ document ∈ documents, Vacant (document.named.at? path) ∨
      ∃ number, document.named.at? path = some (.int number)) ∨
    ∀ document ∈ documents, Vacant (document.named.at? path) ∨
      ∃ text, document.named.at? path = some (.str text)

/-- Documents in the order of a specification: the same documents, each preceding those after it or
tying with them, and those that tie with one another in the order in which they were. -/
structure Ordered (spec : SortSpec) (documents sorted : List Document) : Prop where
  perm : sorted.Perm documents
  order : sorted.Pairwise fun first second => Precedes spec first second ∨ Tied spec first second
  stable : ∀ ties : List Document, ties.Pairwise (Tied spec) → ties.Sublist documents →
    ties.Sublist sorted

/-! ## Ranks of documents -/

/-- Numbers and texts by their order, behind the place of nothing. -/
abbrev Rank := WithBot (Int ⊕ₗ Text)

/-- The rank of what stands at a path. -/
def rankOf : Option Value → Rank
  | some (.int number) => ((Sum.inlₗ number : Int ⊕ₗ Text) : Rank)
  | some (.str text) => ((Sum.inrₗ text : Int ⊕ₗ Text) : Rank)
  | _ => ⊥

/-- The rank of a document on a path. -/
def rankAt (path : Text) (document : Document) : Rank := rankOf (document.named.at? path)

section
variable {path : Text} {document first second : Document} {documents : List Document}

theorem rankOf_vacant {value : Option Value} (nothing : Vacant value) : rankOf value = ⊥ := by
  unfold Vacant at nothing
  split at nothing
  · rfl
  · rfl
  · cases nothing

theorem keyOf_vacant (nothing : Vacant (document.named.at? path)) : keyOf path document = none := by
  unfold keyOf
  unfold Vacant at nothing
  split at nothing <;> simp_all

theorem before?_number_number (m n : Int) :
    Key.before? (some (.int m)) (some (.int n)) = some (decide (m < n)) := by
  have places : (Binary64.Place.ofInt m).order (.ofInt n) = compare m n := by
    simp [Binary64.Place.ofInt, Binary64.Place.order]
  simp only [Key.before?, Value.alike, Value.before?, Value.place?, places]
  rcases lt_trichotomy m n with less | same | more
  · simp [compare_lt_iff_lt.mpr less, less]
  · simp [same]
  · simp [compare_gt_iff_gt.mpr more, more.le]

theorem before?_text_text (s t : Text) :
    Key.before? (some (.str s)) (some (.str t)) = some (decide (s < t)) := by
  have order : s.before t = decide (s < t) := by
    rw [Bool.eq_iff_iff, Text.before_iff_lt, decide_eq_true_iff]
  simp only [Key.before?, Value.text_alike_text, Value.before?, decide_eq_true_eq]
  split
  · rename_i same
    simp [same]
  · rw [order]

/-- Ranks say all there is to say of two documents and a path: which comes first for the sort,
which ranks below which, and whether they tie. -/
structure Compares (path : Text) (first second : Document) : Prop where
  before : Key.before? (keyOf path first) (keyOf path second) =
    some (decide (rankAt path first < rankAt path second))
  below : rankAt path first < rankAt path second →
    Below (first.named.at? path) (second.named.at? path)
  ties : rankAt path first = rankAt path second → Ties path first second

private theorem compares_vacant_vacant (nothing : Vacant (first.named.at? path))
    (neither : Vacant (second.named.at? path)) : Compares path first second where
  before := by
    simp [keyOf_vacant, nothing, neither, rankAt, rankOf_vacant, Key.before?]
  below := by simp [nothing, neither, rankAt, rankOf_vacant]
  ties _ := Or.inr ⟨nothing, neither⟩

private theorem compares_vacant_something {value : Value} (nothing : Vacant (first.named.at? path))
    (found : second.named.at? path = some value) (key : keyOf path second = some value)
    (above : ⊥ < rankOf (some value)) :
    Compares path first second ∧ Compares path second first := by
  have low : rankAt path first = ⊥ := rankOf_vacant nothing
  have high : ⊥ < rankAt path second := by rwa [rankAt, found]
  have something : ¬ Vacant (second.named.at? path) := fun neither =>
    high.ne (rankOf_vacant neither).symm
  refine ⟨⟨?_, fun _ => .vacant nothing something, fun same => ?_⟩,
    ⟨?_, fun less => ?_, fun same => ?_⟩⟩
  · simp [keyOf_vacant nothing, key, Key.before?, low, high]
  · exact absurd (low ▸ same) high.ne
  · simp [keyOf_vacant nothing, key, Key.before?, low]
  · exact absurd (low ▸ less) not_lt_bot
  · exact absurd (low ▸ same.symm) high.ne

private theorem compares_number_number (left : first.named.at? path = some (.int m))
    (right : second.named.at? path = some (.int n)) : Compares path first second := by
  refine ⟨?_, fun less => ?_, fun same => ?_⟩
  · simp [keyOf, rankAt, left, right, rankOf, before?_number_number]
  · rw [left, right]
    exact .number (by simpa [rankAt, left, right, rankOf] using less)
  · exact Or.inl (by simpa [rankAt, left, right, rankOf] using same)

private theorem compares_text_text (left : first.named.at? path = some (.str s))
    (right : second.named.at? path = some (.str t)) : Compares path first second := by
  refine ⟨?_, fun less => ?_, fun same => ?_⟩
  · simp [keyOf, rankAt, left, right, rankOf, before?_text_text]
  · rw [left, right]
    exact .text (Text.before_iff_lt.mpr (by simpa [rankAt, left, right, rankOf] using less))
  · exact Or.inl (by simpa [rankAt, left, right, rankOf] using same)

theorem OneKind.compares (kind : OneKind path documents) (here : first ∈ documents)
    (there : second ∈ documents) : Compares path first second := by
  rcases kind with numbers | texts
  · rcases numbers first here with nothing | ⟨m, left⟩ <;>
      rcases numbers second there with neither | ⟨n, right⟩
    · exact compares_vacant_vacant nothing neither
    · exact (compares_vacant_something nothing right (by rw [keyOf, right])
        (WithBot.bot_lt_coe _)).1
    · exact (compares_vacant_something neither left (by rw [keyOf, left])
        (WithBot.bot_lt_coe _)).2
    · exact compares_number_number left right
  · rcases texts first here with nothing | ⟨s, left⟩ <;>
      rcases texts second there with neither | ⟨t, right⟩
    · exact compares_vacant_vacant nothing neither
    · exact (compares_vacant_something nothing right (by rw [keyOf, right])
        (WithBot.bot_lt_coe _)).1
    · exact (compares_vacant_something neither left (by rw [keyOf, left])
        (WithBot.bot_lt_coe _)).2
    · exact compares_text_text left right

theorem rankAt_of_ties (ties : Ties path first second) :
    rankAt path first = rankAt path second := by
  rcases ties with same | ⟨nothing, neither⟩
  · rw [rankAt, rankAt, same]
  · rw [rankAt, rankAt, rankOf_vacant nothing, rankOf_vacant neither]

/-! ## Sorting by one path -/

theorem OneKind.comparable (kind : OneKind path documents) :
    comparable (documents.map (keyOf path)) = true := by
  refine comparable_of_forall fun key member other last => ?_
  obtain ⟨first, here, rfl⟩ := List.mem_map.mp member
  obtain ⟨second, there, rfl⟩ := List.mem_map.mp last
  rw [(kind.compares here there).before, Option.isSome_some]

/-- Sorting by an ascending path is sorting by ranks. -/
theorem sortBy_ascending (kind : OneKind path documents) :
    sortBy path (isDescending (.int 1)) documents = .ok (byRank (rankAt path) documents) := by
  have ahead : ∀ first ∈ documents, ∀ second ∈ documents,
      staysAhead path false first second = decide (rankAt path first ≤ rankAt path second) := by
    intro first here second there
    simp [staysAhead, (kind.compares there here).before]
  rw [show isDescending (.int 1) = false from rfl, sortBy, if_pos kind.comparable,
    mergeSort_congr ahead, byRank]

/-- Sorting by a descending path is sorting by ranks turned round. -/
theorem sortBy_descending (kind : OneKind path documents) :
    sortBy path (isDescending (.int (-1))) documents =
      .ok (byRank (OrderDual.toDual ∘ rankAt path) documents) := by
  have ahead : ∀ first ∈ documents, ∀ second ∈ documents, staysAhead path true first second =
      decide (OrderDual.toDual (rankAt path first) ≤ OrderDual.toDual (rankAt path second)) := by
    intro first here second there
    simp [staysAhead, (kind.compares here there).before]
  rw [show isDescending (.int (-1)) = true from rfl, sortBy, if_pos kind.comparable,
    mergeSort_congr ahead]
  rfl

end

/-! ## Sorting by all paths -/

section
variable {path : Text} {direction : Value} {spec rest : SortSpec}
  {original documents : List Document}

theorem tied_cons {first second : Document} :
    Tied ((path, direction) :: rest) first second ↔
      Ties path first second ∧ Tied rest first second :=
  List.forall_mem_cons

/-- Sorting what is in the order of the later paths by ranks on one more path. -/
private theorem ordered_byRank {β : Type} [LinearOrder β] {rank : Document → β}
    (behind : Ordered rest original documents)
    (less : ∀ first ∈ documents, ∀ second ∈ documents, rank first < rank second →
      Precedes ((path, direction) :: rest) first second)
    (same : ∀ first ∈ documents, ∀ second ∈ documents, rank first = rank second →
      Ties path first second)
    (tie : ∀ first second, Ties path first second → rank first = rank second) :
    Ordered ((path, direction) :: rest) original (byRank rank documents) where
  perm := (byRank_perm rank documents).trans behind.perm
  order := by
    refine (byRank_lexicographic behind.order).imp_of_mem fun {first second} here there placed => ?_
    have here := (byRank_perm rank documents).subset here
    have there := (byRank_perm rank documents).subset there
    rcases placed with before | ⟨level, later | tied⟩
    · exact Or.inl (less first here second there before)
    · exact Or.inl (.behind (same first here second there level) later)
    · exact Or.inr (tied_cons.mpr ⟨same first here second there level, tied⟩)
  stable ties tied within := by
    have level : ties.Pairwise fun first second => rank first = rank second :=
      tied.imp fun on => tie _ _ (tied_cons.mp on).1
    have later : ties.Pairwise (Tied rest) := tied.imp fun on => (tied_cons.mp on).2
    exact sublist_byRank level (behind.stable ties later within)

/-- One more path, ascending or descending, keeps the order of the paths behind it among documents
that tie on it. -/
theorem sortBy_ordered (kind : OneKind path documents)
    (sign : direction = .int 1 ∨ direction = .int (-1))
    (behind : Ordered rest original documents) :
    ∃ sorted, sortBy path (isDescending direction) documents = .ok sorted ∧
      Ordered ((path, direction) :: rest) original sorted := by
  rcases sign with rfl | rfl
  · refine ⟨_, sortBy_ascending kind, ordered_byRank behind ?_ ?_ fun _ _ => rankAt_of_ties⟩
    · exact fun first here second there less => .ascending ((kind.compares here there).below less)
    · exact fun first here second there same => (kind.compares here there).ties same
  · refine ⟨_, sortBy_descending kind, ordered_byRank behind ?_ ?_ ?_⟩
    · exact fun first here second there less => .descending ((kind.compares there here).below less)
    · exact fun first here second there same => (kind.compares here there).ties same
    · exact fun _ _ ties => congrArg OrderDual.toDual (rankAt_of_ties ties)

theorem OneKind.mono (kind : OneKind path documents) {others : List Document}
    (within : others ⊆ documents) : OneKind path others :=
  kind.imp (fun numbers document member => numbers document (within member))
    fun texts document member => texts document (within member)

/-- Documents are sorted into the order of the whole specification. -/
theorem sort_ordered (signs : ∀ entry ∈ spec, entry.2 = .int 1 ∨ entry.2 = .int (-1))
    (kinds : ∀ path ∈ Entries.keys spec, OneKind path documents) :
    ∃ sorted, sort spec documents = .ok sorted ∧ Ordered spec documents sorted := by
  induction spec with
  | nil =>
    have tied (first second : Document) : Tied [] first second := fun _ member => nomatch member
    refine ⟨documents, rfl, .refl _, ?_, fun _ _ within => within⟩
    exact List.pairwise_of_forall fun first second => Or.inr (tied first second)
  | cons entry rest ih =>
    obtain ⟨path, direction⟩ := entry
    obtain ⟨sign, signs⟩ := List.forall_mem_cons.mp signs
    obtain ⟨kind, kinds⟩ := List.forall_mem_cons.mp kinds
    obtain ⟨behind, earlier, ordered⟩ := ih signs kinds
    obtain ⟨sorted, answered, ordered⟩ :=
      sortBy_ordered (kind.mono ordered.perm.subset) sign ordered
    exact ⟨sorted, by rw [sort, earlier, ok_bind, answered], ordered⟩

end

end SortSpec

namespace Store

/-- The hits in a collection, in order of insertion. -/
def hitsIn (store : Store) (name : Text) (scope : Option Value) (predicate : Value) :
    List Document :=
  (store.collection name).contents.filter (isHit scope predicate)

section
variable {store : Store} {name : Text} {scope : Option Value} {predicate : Value}
  {spec : SortSpec}

/-- Without pages the hits are found in the order of the sort specification, if each of its paths
has a direction and leads to numbers only or to texts only. Documents are found exactly if each can
be judged. -/
theorem found_in_order (signs : ∀ entry ∈ spec, entry.2 = .int 1 ∨ entry.2 = .int (-1))
    (kinds : ∀ path ∈ Entries.keys spec,
      SortSpec.OneKind path (store.hitsIn name scope predicate)) (number : Int) :
    ((∃ page, store.find name predicate spec number 0 scope = .ok page) ↔
      ∀ document ∈ (store.collection name).contents,
        ∃ hit, judge scope predicate document = .ok hit) ∧
    ∀ page, store.find name predicate spec number 0 scope = .ok page →
      page.total = (store.hitsIn name scope predicate).length ∧
      ∃ sorted, spec.Ordered (store.hitsIn name scope predicate) sorted ∧
        page.documents = sorted.map Document.shown := by
  obtain ⟨sorted, answered, ordered⟩ := SortSpec.sort_ordered signs kinds
  have all : paged sorted number 0 = sorted := if_pos (Int.le_refl 0)
  constructor
  · rw [find_eq_pageOf, pageOf]
    simp only [bind_eq_ok, hits_eq_ok]
    constructor
    · rintro ⟨_, _, ⟨judged, -⟩, -⟩
      exact judged
    · intro judged
      exact ⟨_, _, ⟨judged, rfl⟩, sorted, answered, rfl⟩
  · intro page found
    obtain ⟨hits, hit, found⟩ := bind_eq_ok.mp found
    obtain ⟨-, rfl⟩ := (hits_eq_ok scope predicate _).mp hit
    rw [show (store.collection name).contents.filter (isHit scope predicate) =
      store.hitsIn name scope predicate from rfl, answered, ok_bind, all] at found
    cases found
    exact ⟨ordered.perm.length_eq, sorted, ordered, rfl⟩

end

/-- Documents of which some tie, and in some of which nothing stands at a path. -/
private def marked : List Document := [
  .ofEntries [("_id", .str "a"), ("k", .int 1), ("t", .object [("u", .str "x")])],
  .ofEntries [("_id", .str "b"), ("k", .null), ("t", .object [("u", .str "y")])],
  .ofEntries [("_id", .str "c"), ("k", .int 1), ("t", .object [("u", .str "x")])],
  .ofEntries [("_id", .str "e"), ("k", .int 2), ("t", .int 3)],
  .ofEntries [("_id", .str "f"), ("k", .int 2), ("t", .object [("u", .str "w")])]]

/-- A store with these documents and one that is marked otherwise. -/
private def markedStore : Store :=
  ⟨[("m", (.ofEntries [("_id", .str "d"), ("k", .str "2"), ("t", .bool true)] :: marked).map
    fun document => ((document.named.get? "_id").getD .null, document))]⟩

private def otherwise : Value :=
  .object [("t", Predicate.Operator.notEqual.fragment (.bool true))]

private def downThenUp : SortSpec := [("k", .int (-1)), ("t.u", .int 1)]

theorem found_in_order_marked :
    (∀ entry ∈ downThenUp, entry.2 = .int 1 ∨ entry.2 = .int (-1)) ∧
    (∀ path ∈ Entries.keys downThenUp, SortSpec.OneKind path marked) ∧
    ∃ page, markedStore.find "m" (.object []) downThenUp 1 0 (some otherwise) = .ok page ∧
      page.total = 5 ∧ ∃ sorted, downThenUp.Ordered marked sorted ∧
        page.documents = sorted.map Document.shown := by
  have hits : markedStore.hitsIn "m" (some otherwise) (.object []) = marked := by cbv
  have signs : ∀ entry ∈ downThenUp, entry.2 = .int 1 ∨ entry.2 = .int (-1) := by
    simp [downThenUp]
  have kinds : ∀ path ∈ Entries.keys downThenUp, SortSpec.OneKind path marked := by
    refine List.forall_mem_cons.mpr ⟨Or.inl ?_, List.forall_mem_singleton.mpr (Or.inr ?_)⟩
    · simp only [marked, List.forall_mem_cons]
      exact ⟨Or.inr ⟨1, by rfl⟩, Or.inl trivial, Or.inr ⟨1, by rfl⟩, Or.inr ⟨2, by rfl⟩,
        Or.inr ⟨2, by rfl⟩, List.forall_mem_nil _⟩
    · simp only [marked, List.forall_mem_cons]
      exact ⟨Or.inr ⟨"x", by rfl⟩, Or.inr ⟨"y", by rfl⟩, Or.inr ⟨"x", by rfl⟩, Or.inl trivial,
        Or.inr ⟨"w", by rfl⟩, List.forall_mem_nil _⟩
  have judged : ∀ document ∈ (markedStore.collection "m").contents,
      ∃ hit, judge (some otherwise) (.object []) document = .ok hit := by
    have all : (markedStore.collection "m").contents =
        .ofEntries [("_id", .str "d"), ("k", .str "2"), ("t", .bool true)] :: marked := by rfl
    rw [all]
    simp only [marked, List.forall_mem_cons]
    exact ⟨⟨false, by cbv⟩, ⟨true, by cbv⟩, ⟨true, by cbv⟩, ⟨true, by cbv⟩, ⟨true, by cbv⟩,
      ⟨true, by cbv⟩, List.forall_mem_nil _⟩
  have ordered := found_in_order signs (hits ▸ kinds) 1
  obtain ⟨page, found⟩ := ordered.1.mpr judged
  obtain ⟨total, sorted, order, shown⟩ := ordered.2 page found
  rw [hits] at total order
  exact ⟨signs, kinds, page, found, total, sorted, order, shown⟩

/-- Numbers go down, and those that tie stay in their order. -/
example : SortSpec.sort [("k", .int (-1))] (marked.drop 2) =
    .ok [marked[3], marked[4], marked[2]] := by
  cbv

end Store
end SurveyDesk
