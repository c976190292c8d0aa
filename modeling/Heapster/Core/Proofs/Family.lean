import Heapster.Core.Metrics.Registry

set_option autoImplicit false

/-! # `MetricFamilyForName` does not depend on the map's iteration order

`MetricFamilyForName` returns the first family, in the order `range` visits `MetricFamilies`,
whose list names the metric. Go picks that order afresh on every `range`, so the result is
only well defined if no name sits in two lists. `NamesDisjoint` states that of an entry list;
it is kept by every permutation (`NamesDisjoint.perm`) and holds of the literal
(`namesDisjoint_metricFamilies`, by evaluation). Under it the scan returns the owning family of
a listed name (`metricFamilyForName_of_mem`) and `MetricFamilyGeneral` for any other string
(`metricFamilyForName_of_not_mem`), whatever the order. -/

namespace Heapster.Core

/-- No metric name occurs in two entries of `families`. -/
def NamesDisjoint (families : List (MetricFamily × List Metric)) : Prop :=
  families.Pairwise fun a b => ∀ m ∈ a.2, ∀ m' ∈ b.2, m.Name ≠ m'.Name

theorem NamesDisjoint.perm {families families' : List (MetricFamily × List Metric)}
    (hp : families.Perm families') (hd : NamesDisjoint families) : NamesDisjoint families' :=
  hp.pairwise hd fun h m hm m' hm' => (h m' hm' m hm).symm

theorem namesDisjoint_metricFamilies : NamesDisjoint MetricFamilies := by
  unfold NamesDisjoint
  decide

theorem any_name_eq_true {metrics : List Metric} {name : String} :
    metrics.any (fun metric => name == metric.Name) = true ↔
      ∃ m ∈ metrics, m.Name = name := by
  simp only [List.any_eq_true, beq_iff_eq]
  exact exists_congr fun m => and_congr_right fun _ => eq_comm

/-- The scan returns the family whose list holds the name, in any order of disjoint entries. -/
theorem metricFamilyForName_of_mem {families : List (MetricFamily × List Metric)}
    (hd : NamesDisjoint families) {F : MetricFamily} {ms : List Metric} (hF : (F, ms) ∈ families)
    {name : String} (hm : ∃ m ∈ ms, m.Name = name) : MetricFamilyForName families name = F := by
  induction families with
  | nil => simp at hF
  | cons e rest ih =>
    obtain ⟨F0, ms0⟩ := e
    rw [NamesDisjoint, List.pairwise_cons] at hd
    obtain ⟨m, hm, rfl⟩ := hm
    simp only [MetricFamilyForName]
    rcases List.mem_cons.1 hF with he | hrest
    · cases he
      rw [if_pos (any_name_eq_true.2 ⟨m, hm, rfl⟩)]
    · split
      · next hany =>
        obtain ⟨m0, hm0, he⟩ := any_name_eq_true.1 hany
        exact absurd he (hd.1 _ hrest m0 hm0 m hm)
      · exact ih hd.2 hrest

/-- A name in no list resolves to `MetricFamilyGeneral`, in any order. -/
theorem metricFamilyForName_of_not_mem {families : List (MetricFamily × List Metric)}
    {name : String} (h : ∀ e ∈ families, ∀ m ∈ e.2, m.Name ≠ name) :
    MetricFamilyForName families name = MetricFamilyGeneral := by
  induction families with
  | nil => rfl
  | cons e rest ih =>
    simp only [List.mem_cons, forall_eq_or_imp] at h
    simp only [MetricFamilyForName]
    rw [if_neg fun hany => by
      obtain ⟨m, hm, he⟩ := any_name_eq_true.1 hany
      exact h.1 m hm he]
    exact ih h.2

/-- Every order in which `range MetricFamilies` may visit the entries gives the literal order's
    answer. -/
theorem metricFamilyForName_perm {families : List (MetricFamily × List Metric)}
    (hp : families.Perm MetricFamilies) (name : String) :
    MetricFamilyForName families name = MetricFamilyForName MetricFamilies name := by
  have hd := namesDisjoint_metricFamilies
  by_cases hex : ∃ e ∈ MetricFamilies, ∃ m ∈ e.2, m.Name = name
  · obtain ⟨⟨F, ms⟩, he, hm⟩ := hex
    rw [metricFamilyForName_of_mem (hd.perm hp.symm) (hp.symm.subset he) hm,
      metricFamilyForName_of_mem hd he hm]
  · push_neg at hex
    rw [metricFamilyForName_of_not_mem (fun e he => hex e (hp.subset he)),
      metricFamilyForName_of_not_mem hex]

theorem metricFamilyForName_any_order (families : List (MetricFamily × List Metric))
    (hp : families.Perm MetricFamilies) (name : String) :
    (∀ F ms, (F, ms) ∈ MetricFamilies → (∃ m ∈ ms, m.Name = name) →
      MetricFamilyForName families name = F) ∧
    ((∀ F ms, (F, ms) ∈ MetricFamilies → ∀ m ∈ ms, m.Name ≠ name) →
      MetricFamilyForName families name = MetricFamilyGeneral) ∧
    (∀ families', families'.Perm MetricFamilies →
      MetricFamilyForName families' name = MetricFamilyForName families name) := by
  have hd := namesDisjoint_metricFamilies.perm hp.symm
  refine ⟨fun F ms hF hm => metricFamilyForName_of_mem hd (hp.symm.subset hF) hm,
    fun h => metricFamilyForName_of_not_mem fun e he => h e.1 e.2 (hp.subset he),
    fun families' hp' => by rw [metricFamilyForName_perm hp', metricFamilyForName_perm hp]⟩

/-- Visiting the entries in reverse, `cpu/usage` still resolves to the CPU family. -/
theorem metricFamilyForName_reverse_cpuUsage :
    MetricFamilyForName MetricFamilies.reverse "cpu/usage" = MetricFamilyCpu :=
  (metricFamilyForName_any_order MetricFamilies.reverse (List.reverse_perm _) "cpu/usage").1
    MetricFamilyCpu CpuMetrics (by simp [MetricFamilies])
    ⟨MetricCpuUsage, by simp [CpuMetrics], rfl⟩

end Heapster.Core
