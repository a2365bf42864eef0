import FencedHighlight.Proofs.Projection.Order

namespace FencedHighlight
namespace StyleRange

/-!
Sorting ranges.

Ranges are sorted by their starts, and of those with one start the wider ones come
first.  Ranges over the same stretch keep their order, so there is only one list that is
sorted in this way.  A range that is added goes to a place of its own and the others keep
theirs, so no two ranges change places because others are sorted together with them.
-/

variable {ranges sorted : List StyleRange}

/-- The stretch that a range covers. -/
def span (range : StyleRange) : Span :=
  ⟨range.start, range.stop⟩

/-- Whether some ranges are the stable sort of others. -/
structure SortsStably (ranges sorted : List StyleRange) : Prop where
  perm : sorted.Perm ranges
  ordered : sorted.Pairwise fun first second =>
    first.start < second.start ∨ (first.start = second.start ∧ second.stop ≤ first.stop)
  stable : ∀ span, (sorted.filter fun range => range.span = span) =
    ranges.filter fun range => range.span = span

/-- Ranges that may stand ahead of each other cover the same stretch. -/
theorem span_eq_of_ahead {first second : StyleRange} (before : first.ahead second = true)
    (after : second.ahead first = true) : first.span = second.span := by
  rw [ahead_iff] at before after
  rw [span, span, Span.mk.injEq]
  omega

theorem ahead_of_span_eq {first second : StyleRange} (same : first.span = second.span) :
    first.ahead second = true := by
  rcases Span.mk.inj same with ⟨starts, stops⟩
  rw [ahead_iff]
  omega

theorem pairwise_sort (ranges : List StyleRange) :
    (sort ranges).Pairwise fun first second => first.ahead second = true :=
  List.pairwise_mergeSort ahead_trans ahead_total ranges

theorem perm_sort (ranges : List StyleRange) : (sort ranges).Perm ranges :=
  List.mergeSort_perm ranges _

/-- Sorting keeps the order of the ranges over one stretch. -/
theorem filter_sort (ranges : List StyleRange) (span : Span) :
    ((sort ranges).filter fun range => range.span = span) =
      ranges.filter fun range => range.span = span := by
  have alike : (ranges.filter fun range => range.span = span).Pairwise
      fun first second => first.ahead second = true := by
    refine List.pairwise_of_forall_mem_list fun first firstMember second secondMember => ?_
    have here := of_decide_eq_true (List.mem_filter.mp firstMember).2
    have there := of_decide_eq_true (List.mem_filter.mp secondMember).2
    exact ahead_of_span_eq (here.trans there.symm)
  have kept := (List.sublist_mergeSort ahead_trans ahead_total alike
    List.filter_sublist).filter fun range => range.span = span
  rw [List.filter_filter] at kept
  simp only [Bool.and_self] at kept
  exact (kept.eq_of_length ((perm_sort ranges).filter _).length_eq.symm).symm

theorem sortsStably_sort (ranges : List StyleRange) : SortsStably ranges (sort ranges) :=
  { perm := perm_sort ranges
    ordered := (pairwise_sort ranges).imp fun ahead => (ahead_iff).mp ahead
    stable := filter_sort ranges }

/-- Some range over each stretch is among others that agree on all stretches. -/
theorem mem_of_filter_eq {first second : List StyleRange} {range : StyleRange}
    (same : ∀ span, (first.filter fun range => range.span = span) =
      second.filter fun range => range.span = span) (member : range ∈ first) :
    range ∈ second := by
  have among : range ∈ first.filter fun other => other.span = range.span :=
    List.mem_filter.mpr ⟨member, decide_eq_true rfl⟩
  rw [same] at among
  exact (List.mem_filter.mp among).1

/-- Sorted ranges are known by their order on each stretch. -/
theorem eq_of_filter_eq {first second : List StyleRange}
    (firstOrdered : first.Pairwise fun first second => first.ahead second = true)
    (secondOrdered : second.Pairwise fun first second => first.ahead second = true)
    (same : ∀ span, (first.filter fun range => range.span = span) =
      second.filter fun range => range.span = span) : first = second := by
  induction first generalizing second with
  | nil =>
      refine (List.eq_nil_iff_forall_not_mem.mpr fun range member => ?_).symm
      cases mem_of_filter_eq (fun span => (same span).symm) member
  | cons range first ih =>
      cases second with
      | nil => cases mem_of_filter_eq same List.mem_cons_self
      | cons other second =>
          rcases List.pairwise_cons.mp firstOrdered with ⟨ahead, firstRest⟩
          rcases List.pairwise_cons.mp secondOrdered with ⟨otherAhead, secondRest⟩
          have spans : range.span = other.span := by
            rcases List.mem_cons.mp (mem_of_filter_eq same List.mem_cons_self) with rfl | later
            · rfl
            · have back := mem_of_filter_eq (fun span => (same span).symm) List.mem_cons_self
              rcases List.mem_cons.mp back with rfl | behind
              · rfl
              · exact span_eq_of_ahead (ahead other behind) (otherAhead range later)
          have heads := same range.span
          simp only [List.filter_cons, spans, decide_true, if_true] at heads
          rcases (List.cons.inj heads).1 with rfl
          refine congrArg _ (ih firstRest secondRest fun span => ?_)
          have tails := same span
          simp only [List.filter_cons] at tails
          split at tails
          · exact (List.cons.inj tails).2
          · exact tails

/-- Ranges can be stably sorted in one way only. -/
theorem sort_eq_iff : sort ranges = sorted ↔ SortsStably ranges sorted := by
  constructor
  · rintro rfl
    exact sortsStably_sort ranges
  · intro sorts
    refine eq_of_filter_eq (pairwise_sort ranges)
      (sorts.ordered.imp fun ahead => (ahead_iff).mpr ahead) fun span => ?_
    rw [filter_sort, sorts.stable]

/-! ## Ranges that are sorted together with others -/

/-- A range is put behind all those that it may not stand ahead of. -/
theorem sort_cons (range : StyleRange) (ranges : List StyleRange) :
    sort (range :: ranges) = (sort ranges).filter (fun other => !range.ahead other) ++
      range :: (sort ranges).filter (fun other => range.ahead other) := by
  rcases List.mergeSort_cons ahead_trans ahead_total range ranges with
    ⟨earlier, later, whole, others, behind⟩
  have ordered := pairwise_sort (range :: ranges)
  rw [sort, whole] at ordered
  have ahead := (List.pairwise_cons.mp (List.pairwise_append.mp ordered).2.1).1
  rw [sort, sort, whole, others, List.filter_append, List.filter_append,
    List.filter_eq_self.mpr behind, List.filter_eq_self.mpr ahead,
    List.filter_eq_nil_iff.mpr (fun other member => by simp [ahead other member]),
    List.filter_eq_nil_iff.mpr (fun other member => by simpa using behind other member),
    List.append_nil, List.nil_append]

/-- Fewer ranges are sorted in the same order. -/
theorem sort_sublist {fewer more : List StyleRange} (part : fewer.Sublist more) :
    (sort fewer).Sublist (sort more) := by
  induction part with
  | slnil => exact List.Sublist.refl _
  | @cons fewer more range part ih =>
      rcases List.mergeSort_cons ahead_trans ahead_total range more with
        ⟨earlier, later, whole, others, _⟩
      refine ih.trans ?_
      rw [sort, sort, whole, others]
      exact (List.Sublist.refl earlier).append (List.sublist_cons_self range later)
  | cons_cons range part ih =>
      rw [sort_cons, sort_cons]
      exact (ih.filter _).append ((ih.filter _).cons_cons range)

/-- In whatever order ranges are given, the stretches that they cover are sorted alike. -/
theorem map_span_sort_of_perm {first second : List StyleRange} (shuffled : first.Perm second) :
    (sort first).map span = (sort second).map span := by
  have ordered (ranges : List StyleRange) : ((sort ranges).map span).Pairwise
      fun first second => first.start < second.start ∨
        (first.start = second.start ∧ second.stop ≤ first.stop) :=
    List.pairwise_map.mpr ((pairwise_sort ranges).imp fun ahead => (ahead_iff).mp ahead)
  refine List.Perm.eq_of_pairwise ?_ (ordered first) (ordered second)
    (((perm_sort first).trans (shuffled.trans (perm_sort second).symm)).map span)
  intro one other _ _ before after
  cases one
  cases other
  rw [Span.mk.injEq]
  simp only at before after
  omega

end StyleRange
end FencedHighlight
