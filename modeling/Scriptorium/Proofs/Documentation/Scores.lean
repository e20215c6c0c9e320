import Mathlib.Algebra.Order.Field.Basic
import Mathlib.Algebra.Order.Field.Rat
import Mathlib.Tactic.Linarith
import Mathlib.Tactic.NormNum
import Mathlib.Tactic.Ring
import Scriptorium.Documentation.Quality
import Scriptorium.Proofs.Outcome
set_option autoImplicit false

/-!
# The range of scores

Scores are meant to lie between 0 and 100.  In exact arithmetic the two scores for coverage and
readability always do: no more elements are documented than there are, and readability is cut off
at both ends.  Their weighted mean with consistency never exceeds 100, but each issue takes five
points off consistency and nothing stops it at zero.  Completeness lies in the range just if the
points that the issues cost do not outweigh all that is earned without them
(`Tally.isScore_exactly_iff`), as they never do up to twenty issues.
-/

namespace Scriptorium

/-- The exact value of a number that lies on the line. -/
def Number.value? (x : Number) : Option ℚ :=
  match x.place with
  | .at num den => some (num / den)
  | _ => none

namespace Documentation

/-! ## Exact scores -/

/-- Scores in exact arithmetic. -/
def rationals : Arithmetic ℚ where
  ofInt n := n
  add := (· + ·)
  sub := (· - ·)
  mul := (· * ·)
  div := (· / ·)
  lt x y := decide (x < y)

/-- A value in the range of scores. -/
def IsScore (x : ℚ) : Prop := 0 ≤ x ∧ x ≤ 100

theorem isScore_clamp (x : ℚ) : IsScore (Score.clamp rationals x) := by
  simp only [IsScore, Score.clamp, rationals, decide_eq_true_eq, Int.cast_zero, Int.cast_ofNat]
  split_ifs <;> constructor <;> linarith

theorem isScore_readability (letters words : Nat) :
    IsScore (Score.readability rationals letters words) :=
  isScore_clamp _

theorem isScore_coverage {documented total : Nat} (h : documented ≤ total) :
    IsScore (Score.coverage rationals documented total) := by
  unfold Score.coverage
  split
  · norm_num [IsScore, rationals]
  · rename_i hsome
    have hshare : (documented : ℚ) / total ≤ 1 :=
      div_le_one_of_le₀ (by exact_mod_cast h) (by positivity)
    have hnonneg : 0 ≤ (documented : ℚ) / total := by positivity
    simp only [IsScore, rationals, Int.cast_natCast, Int.cast_ofNat]
    constructor <;> linarith

/-- Weights that share out the whole. -/
structure Weights where
  coverage : ℚ
  readability : ℚ
  consistency : ℚ
  coverage_nonneg : 0 ≤ coverage
  readability_nonneg : 0 ≤ readability
  consistency_nonneg : 0 ≤ consistency
  sum_eq_one : coverage + readability + consistency = 1

namespace Weights

variable (w : Weights)

/-- The weighted mean of three scores. -/
def mean (x y z : ℚ) : ℚ := x * w.coverage + y * w.readability + z * w.consistency

theorem mean_nonneg {x y z : ℚ} (hx : 0 ≤ x) (hy : 0 ≤ y) (hz : 0 ≤ z) : 0 ≤ w.mean x y z :=
  add_nonneg (add_nonneg (mul_nonneg hx w.coverage_nonneg) (mul_nonneg hy w.readability_nonneg))
    (mul_nonneg hz w.consistency_nonneg)

theorem mean_le {x y z bound : ℚ} (hx : x ≤ bound) (hy : y ≤ bound) (hz : z ≤ bound) :
    w.mean x y z ≤ bound := by
  have hcoverage := mul_le_mul_of_nonneg_right hx w.coverage_nonneg
  have hreadability := mul_le_mul_of_nonneg_right hy w.readability_nonneg
  have hconsistency := mul_le_mul_of_nonneg_right hz w.consistency_nonneg
  calc
    w.mean x y z ≤ bound * w.coverage + bound * w.readability + bound * w.consistency := by
      unfold mean
      linarith
    _ = bound * (w.coverage + w.readability + w.consistency) := by ring
    _ = bound := by rw [w.sum_eq_one, mul_one]

end Weights

/-! ## What is counted -/

/-- What has been counted before is added to what is counted from there on. -/
theorem foldlM_count (flagOf : Value → Outcome Value) (elements : List Value) (start before : Nat) :
    elements.foldlM (fun n element => do
        let flag ← flagOf element
        return if flag.truthy then n + 1 else n) (start + before) =
      (· + before) <$> elements.foldlM (fun n element => do
        let flag ← flagOf element
        return if flag.truthy then n + 1 else n) start := by
  induction elements generalizing start with
  | nil => rfl
  | cons element rest ih =>
      simp only [List.foldlM_cons, bind_assoc, pure_bind, map_bind]
      refine congrArg (Except.bind _) (funext fun flag => ?_)
      cases flag.truthy with
      | true => simpa only [if_true, Nat.add_right_comm start before 1] using ih (start + 1)
      | false => exact ih start

theorem countDocumented_cons (element : Value) (rest : List Value) :
    countDocumented (element :: rest) =
      element.getOr "has_docstring" .null >>= fun flag =>
        (· + if flag.truthy then 1 else 0) <$> countDocumented rest := by
  simp only [countDocumented, List.foldlM_cons, bind_assoc, pure_bind]
  refine congrArg (Except.bind _) (funext fun flag => ?_)
  cases flag.truthy with
  | true => exact foldlM_count _ rest 0 1
  | false => exact foldlM_count _ rest 0 0

theorem countDocumented_le {elements : List Value} {n : Nat}
    (h : countDocumented elements = .ok n) : n ≤ elements.length := by
  induction elements generalizing n with
  | nil =>
      obtain rfl : 0 = n := Outcome.pure_eq_ok_iff.mp h
      exact Nat.le_refl 0
  | cons element rest ih =>
      rw [countDocumented_cons, Outcome.bind_eq_ok_iff] at h
      obtain ⟨flag, -, hcount⟩ := h
      obtain ⟨m, hm, rfl⟩ := Outcome.map_eq_ok_iff.mp hcount
      have hle := ih hm
      simp only [List.length_cons]
      split <;> omega

/-- Only elements that carry documentation have an issue. -/
theorem truthy_of_issueOf [Halves] {standards element flag : Value} {issue : Issue}
    (h : issueOf standards element = .ok (some issue))
    (hflag : element.getOr "has_docstring" .null = .ok flag) : flag.truthy = true := by
  cases htruthy : flag.truthy with
  | true => rfl
  | false =>
      simp [issueOf, hflag, htruthy, bind, Except.bind, pure, Except.pure] at h

/-- There are no more issues than documented elements. -/
theorem length_found_le [Halves] {standards : Value} {elements : List Value} {n : Nat}
    {found : List (Option Issue)} (hcount : countDocumented elements = .ok n)
    (hfound : elements.mapM (issueOf standards) = .ok found) :
    (found.filterMap id).length ≤ n := by
  induction elements generalizing n found with
  | nil =>
      obtain rfl : [] = found := Outcome.pure_eq_ok_iff.mp hfound
      exact Nat.zero_le n
  | cons element rest ih =>
      rw [countDocumented_cons, Outcome.bind_eq_ok_iff] at hcount
      obtain ⟨flag, hflag, hmore⟩ := hcount
      obtain ⟨m, hm, rfl⟩ := Outcome.map_eq_ok_iff.mp hmore
      simp only [List.mapM_cons, Outcome.bind_eq_ok_iff, Outcome.pure_eq_ok_iff] at hfound
      obtain ⟨first, hfirst, later, hlater, rfl⟩ := hfound
      have hle := ih hm hlater
      cases first with
      | none => exact Nat.le_add_right_of_le hle
      | some issue =>
          rw [truthy_of_issueOf hfirst hflag]
          simpa using hle

theorem length_of_size {v : Value} {size : Nat} {items : List Value} (hsize : v.size = .ok size)
    (hitems : v.items = .ok items) : items.length = size := by
  cases v with
  | text s =>
      simp only [Value.size, Value.items, Value.items?, Except.ok.injEq] at hsize hitems
      rw [← hsize, ← hitems, List.length_map, String.length_toList]
  | list xs =>
      simp only [Value.size, Value.items, Value.items?, Except.ok.injEq] at hsize hitems
      rw [← hsize, ← hitems]
  | record fields =>
      simp only [Value.size, Value.items, Value.items?, Except.ok.injEq] at hsize hitems
      rw [← hsize, ← hitems, List.length_map]
  | _ => simp [Value.size] at hsize

section Tally

variable {standards : Standards} {documentation suffix structure' : Value}

theorem length_issuesOf_le [Halves] {sections functions : Value} {items : List Value}
    {issues : List Issue}
    {n : Nat} (hfunctions : structure'.getOr "functions" (.list []) = .ok functions)
    (hitems : functions.items = .ok items) (hcount : countDocumented items = .ok n)
    (h : issuesOf sections structure' = .ok issues) : issues.length ≤ n := by
  simp only [issuesOf, hfunctions, hitems, Outcome.bind_eq_ok_iff, Except.ok.injEq,
    exists_eq_left', Outcome.pure_eq_ok_iff] at h
  obtain ⟨found, hfound, rfl⟩ := h
  exact length_found_le hcount hfound

/-- Issues are found under the sections of the format, or not at all. -/
theorem issues_cases [Halves] {format : Source.Format} {issues : List Issue}
    (h : standards.issues format structure' = .ok issues) :
    issues = [] ∨ ∃ sections, issuesOf sections structure' = .ok issues := by
  unfold Standards.issues at h
  split at h
  · simp only [Outcome.bind_eq_ok_iff] at h
    obtain ⟨known, -, hknown⟩ := h
    split at hknown
    · obtain ⟨sections, -, hissues⟩ := Outcome.bind_eq_ok_iff.mp hknown
      exact .inr ⟨sections, hissues⟩
    · exact .inl (Outcome.pure_eq_ok_iff.mp hknown).symm
  · cases h

/-- Each issue is one of a documented element, and no more elements are documented than there
are. -/
theorem tally_bounds [Halves] {t : Tally}
    (h : tally standards documentation suffix structure' = .ok t) :
    t.issues.length ≤ t.documented ∧ t.documented ≤ t.elements := by
  simp only [tally, Outcome.bind_eq_ok_iff, Outcome.pure_eq_ok_iff] at h
  obtain ⟨functions, hfunctions, functionCount, hfunctionCount, classes, -, classCount, hclassCount,
    functionItems, hfunctionItems, documented, hdocumented, classItems, hclassItems,
    documentedClasses, hdocumentedClasses, format, -, issues, hissues, -, -, rfl⟩ := h
  refine ⟨Nat.le_add_right_of_le ?_, Nat.add_le_add ?_ ?_⟩
  · rcases issues_cases hissues with rfl | ⟨sections, hof⟩
    · exact Nat.zero_le documented
    · exact length_issuesOf_le hfunctions hfunctionItems hdocumented hof
  · rw [← length_of_size hfunctionCount hfunctionItems]
    exact countDocumented_le hdocumented
  · rw [← length_of_size hclassCount hclassItems]
    exact countDocumented_le hdocumentedClasses

end Tally

/-! ## Completeness -/

namespace Tally

/-- Completeness in some arithmetic, with these weights. -/
def completeness {α : Type} (A : Arithmetic α) (t : Tally) (a b c : α) : α :=
  Score.completeness A (t.coverage A) (t.readability A) t.issues.length a b c

/-- What is earned before the issues are counted. -/
def earned (t : Tally) (w : Weights) : ℚ :=
  w.mean (t.coverage rationals) (t.readability rationals) 100

/-- The points that the issues cost. -/
def cost (t : Tally) (w : Weights) : ℚ := 5 * t.issues.length * w.consistency

/-- Completeness in exact arithmetic. -/
def exactly (t : Tally) (w : Weights) : ℚ :=
  t.completeness rationals w.coverage w.readability w.consistency

theorem exactly_eq_mean (t : Tally) (w : Weights) :
    t.exactly w = w.mean (t.coverage rationals) (t.readability rationals)
      (100 - 5 * t.issues.length) := by
  simp only [exactly, completeness, Score.completeness, Score.consistency, Weights.mean]
  simp only [rationals]
  push_cast
  ring

theorem exactly_eq_sub (t : Tally) (w : Weights) : t.exactly w = t.earned w - t.cost w := by
  rw [exactly_eq_mean, earned, cost, Weights.mean, Weights.mean]
  ring

theorem isScore_earned {t : Tally} (h : t.documented ≤ t.elements) (w : Weights) :
    IsScore (t.earned w) := by
  have hcoverage : IsScore (t.coverage rationals) := isScore_coverage h
  have hreadability : IsScore (t.readability rationals) := isScore_readability _ _
  exact ⟨w.mean_nonneg hcoverage.1 hreadability.1 (by norm_num),
    w.mean_le hcoverage.2 hreadability.2 le_rfl⟩

theorem exactly_le {t : Tally} (h : t.documented ≤ t.elements) (w : Weights) :
    t.exactly w ≤ 100 := by
  have hcost : 0 ≤ t.cost w := mul_nonneg (by positivity) w.consistency_nonneg
  rw [exactly_eq_sub]
  linarith [(isScore_earned h w).2]

/-- Completeness is a score just if the issues do not cost more than is earned without them. -/
theorem isScore_exactly_iff {t : Tally} (h : t.documented ≤ t.elements) (w : Weights) :
    IsScore (t.exactly w) ↔ t.cost w ≤ t.earned w := by
  rw [IsScore, and_iff_left (exactly_le h w), exactly_eq_sub, sub_nonneg]

/-- Twenty issues cost no more than consistency earns. -/
theorem cost_le_earned {t : Tally} (h : t.documented ≤ t.elements) (w : Weights)
    (hfew : t.issues.length ≤ 20) : t.cost w ≤ t.earned w := by
  have hcoverage : IsScore (t.coverage rationals) := isScore_coverage h
  have hreadability : IsScore (t.readability rationals) := isScore_readability _ _
  have hfew : (t.issues.length : ℚ) ≤ 20 := by exact_mod_cast hfew
  rw [← sub_nonneg, ← exactly_eq_sub, exactly_eq_mean]
  exact w.mean_nonneg hcoverage.1 hreadability.1 (by linarith)

end Tally

/-! ## Reports -/

/-- A record gives these numbers for the three weights. -/
structure Gives (record : Value) (a b c : Number) : Prop where
  coverage : (record.entry "coverage_weight").toOption.bind Value.number? = some a
  readability : (record.entry "readability_weight").toOption.bind Value.number? = some b
  consistency : (record.entry "consistency_weight").toOption.bind Value.number? = some c

/-- Weights that are the exact values of what a record gives. -/
def Weights.Of (w : Weights) (record : Value) : Prop :=
  ∃ a b c, Gives record a b c ∧ a.value? = some w.coverage ∧ b.value? = some w.readability ∧
    c.value? = some w.consistency

theorem exists_entry {record : Value} {name : String} {x : Number}
    (h : (record.entry name).toOption.bind Value.number? = some x) :
    ∃ u, record.entry name = .ok u ∧ u.number? = some x := by
  obtain ⟨u, hu, hx⟩ := Option.bind_eq_some_iff.mp h
  exact ⟨u, Outcome.eq_ok_of_toOption hu, hx⟩

theorem number?_ofNumber (x : Number) : (Value.ofNumber x).number? = some x := by
  cases x <;> rfl

/-- Products of numbers are numbers. -/
theorem eq_of_times {x y : Number} {u v : Value} (hu : u.number? = some y)
    (h : (Value.ofNumber x).times u = .ok v) : v = .ofNumber (x.mul y) := by
  simp only [Value.times, number?_ofNumber, hu] at h
  split at h
  · exact (Except.ok.inj h).symm
  · cases h

/-- Sums of numbers are numbers. -/
theorem eq_of_plus {x y : Number} {v : Value}
    (h : (Value.ofNumber x).plus (.ofNumber y) = .ok v) : v = .ofNumber (x.add y) := by
  simp only [Value.plus, number?_ofNumber] at h
  split at h
  · exact (Except.ok.inj h).symm
  · cases h

/-- With weights that are numbers, what is computed is the general formula. -/
theorem completeness_of_gives {coverage readability : Number} {issues : Nat} {record v : Value}
    {a b c : Number} (hgives : Gives record a b c)
    (h : completeness coverage readability issues (some record) = .ok v) :
    v = .ofNumber (Score.completeness numbers coverage readability issues a b c) := by
  obtain ⟨ua, hua, ha⟩ := exists_entry hgives.coverage
  obtain ⟨ub, hub, hb⟩ := exists_entry hgives.readability
  obtain ⟨uc, huc, hc⟩ := exists_entry hgives.consistency
  simp only [completeness, hua, hub, huc, Outcome.bind_eq_ok_iff, Except.ok.injEq,
    exists_eq_left'] at h
  obtain ⟨covered, hcovered, readable, hreadable, both, hboth, consistent, hconsistent, hsum⟩ := h
  obtain rfl := eq_of_times ha hcovered
  obtain rfl := eq_of_times hb hreadable
  obtain rfl := eq_of_plus hboth
  obtain rfl := eq_of_times (x := .whole (Score.consistency issues)) hc hconsistent
  exact eq_of_plus hsum

/-- An assessment shows the scores of what was counted, in the arithmetic of reports. -/
structure Shows (standards : Standards) (q : Quality) (t : Tally) : Prop where
  issues : q.issues = t.issues
  coverage : q.coverage = t.coverage numbers
  readability : q.readability = t.readability numbers
  completeness : ∀ record a b c, standards.weights = some record → Gives record a b c →
    q.completeness = .ofNumber (t.completeness numbers a b c)

theorem exists_tally [Halves] {standards : Standards} {documentation suffix structure' : Value}
    {q : Quality} (h : assess standards documentation suffix structure' = .ok q) :
    ∃ t, tally standards documentation suffix structure' = .ok t ∧ Shows standards q t := by
  simp only [assess, Outcome.bind_eq_ok_iff, Outcome.pure_eq_ok_iff] at h
  obtain ⟨t, ht, complete, hcomplete, rfl⟩ := h
  refine ⟨t, ht, rfl, rfl, rfl, ?_⟩
  intro record a b c hrecord hgives
  rw [hrecord] at hcomplete
  exact completeness_of_gives hgives hcomplete

/-- Whenever documentation is assessed, the assessment shows the scores of some counts.  In exact
arithmetic and with any weights that share out the whole, the scores for coverage and readability
of these counts lie between 0 and 100, and completeness never exceeds 100; it lies in the range just
if the issues do not cost more than is earned without them.  They never do if at most twenty
elements are documented. -/
theorem scores_in_range_iff_cost_le_earned [Halves] {standards : Standards}
    {documentation suffix structure' : Value} {q : Quality}
    (h : assess standards documentation suffix structure' = .ok q) :
    ∃ t, tally standards documentation suffix structure' = .ok t ∧ Shows standards q t ∧
      ∀ w : Weights, IsScore (t.coverage rationals) ∧ IsScore (t.readability rationals) ∧
        t.exactly w ≤ 100 ∧ (IsScore (t.exactly w) ↔ t.cost w ≤ t.earned w) ∧
        (t.documented ≤ 20 → t.cost w ≤ t.earned w) := by
  obtain ⟨t, ht, hshows⟩ := exists_tally h
  obtain ⟨hissues, hdocumented⟩ := tally_bounds ht
  refine ⟨t, ht, hshows, fun w => ?_⟩
  refine ⟨isScore_coverage hdocumented, isScore_readability _ _, Tally.exactly_le hdocumented w,
    Tally.isScore_exactly_iff hdocumented w, ?_⟩
  intro hfew
  exact Tally.cost_le_earned hdocumented w (hissues.trans hfew)

/-! ### Scripts of commented functions -/

/-- The sections that the functions of scripts have to document. -/
def scriptSections : Value :=
  .record [("function", .record [("required",
    .list [.text "description", .text "params", .text "returns", .text "throws"])])]

/-- Standards for scripts alone, with some weights. -/
def scriptStandards (weights : Value) : Standards where
  sections := some (.record [("javascript", scriptSections)])
  weights := some weights

/-- A function with a comment. -/
def commentedFunction : Source.FunctionItem := ⟨"f", 1, true, .declaration⟩

/-- A script of functions that have a comment each. -/
def commentedScript (n : Nat) : Source.Structure :=
  .outlined .javascript ⟨List.replicate n commentedFunction, [], [], []⟩

/-- The issue with a commented function: outlines keep no text of comments, so that every section
is absent. -/
def undescribed : Issue := ⟨"f()", "description, params, returns, throws"⟩

theorem getOr_commentedScript [Halves] (n : Nat) :
    (commentedScript n).toValue.getOr "functions" (.list []) =
      .ok (.list (List.replicate n commentedFunction.toValue)) := by
  rw [← List.map_replicate]
  rfl

theorem countDocumented_commented (n : Nat) :
    countDocumented (List.replicate n commentedFunction.toValue) = .ok n := by
  induction n with
  | zero => rfl
  | succ n ih =>
      rw [List.replicate_succ, countDocumented_cons, ih]
      rfl

section

open scoped Halves.Plain

theorem issuesOf_commented (n : Nat) :
    issuesOf scriptSections (commentedScript n).toValue = .ok (List.replicate n undescribed) := by
  have hissue : issueOf scriptSections commentedFunction.toValue = .ok (some undescribed) := by
    with_unfolding_all rfl
  have hfound := Outcome.mapM_eq_ok_map (g := fun _ => some undescribed)
    fun x (hx : x ∈ List.replicate n commentedFunction.toValue) =>
      List.eq_of_mem_replicate hx ▸ hissue
  simp only [issuesOf, getOr_commentedScript, Value.items, Value.items?, hfound, bind, Except.bind,
    pure, Except.pure, List.map_replicate, List.filterMap_replicate, id_eq]

theorem tally_commentedScript (weights : Value) (n : Nat) :
    tally (scriptStandards weights) (.text "") (.text ".js") (commentedScript n).toValue =
      .ok ⟨n, n, List.replicate n undescribed, 0, 0⟩ := by
  have hclasses : (commentedScript n).toValue.getOr "classes" (.list []) = .ok (.list []) := rfl
  have hfind : Source.Format.find (.text ".js") = .ok .javascript := rfl
  have hissues : (scriptStandards weights).issues .javascript (commentedScript n).toValue =
      issuesOf scriptSections (commentedScript n).toValue := rfl
  have hwords : wordsOf (.text "") = .ok [] := rfl
  simp only [tally, getOr_commentedScript, hclasses, hfind, hissues, issuesOf_commented, hwords,
    Value.size, Value.items, Value.items?, countDocumented_commented, bind, Except.bind, pure,
    Except.pure, List.length_replicate]
  rfl

/-- Each commented function costs its share of five points, and enough of them cost more than there
is, whatever the weights. -/
theorem exactly_commented_neg_iff (w : Weights) (n : Nat) :
    Tally.exactly ⟨n, n, List.replicate n undescribed, 0, 0⟩ w < 0 ↔ 20 < n * w.consistency := by
  have hcoverage : Score.coverage rationals n n = 100 := by
    unfold Score.coverage
    split
    · rfl
    · rename_i hsome
      have hne : (n : ℚ) ≠ 0 := by exact_mod_cast hsome
      simp only [rationals, Int.cast_natCast, Int.cast_ofNat, div_self hne, one_mul]
  have hreadability : Score.readability rationals 0 0 = 100 := by
    norm_num [Score.readability, Score.clamp, rationals]
  have hmean : w.mean 100 100 100 = 100 := by
    rw [Weights.mean, ← mul_add, ← mul_add, w.sum_eq_one, mul_one]
  rw [Tally.exactly_eq_sub, Tally.earned, Tally.coverage, Tally.readability, hcoverage,
    hreadability, hmean, Tally.cost, List.length_replicate]
  constructor <;> intro h <;> linarith

/-- The usual weights as a record. -/
def usualRecord : Value :=
  .record [("coverage_weight", .float 0.4), ("readability_weight", .float 0.3),
    ("consistency_weight", .float 0.3)]

/-- The usual weights, which are floats that share out the whole exactly. -/
def usual : Weights where
  coverage := 7205759403792794 / 18014398509481984
  readability := 5404319552844595 / 18014398509481984
  consistency := 5404319552844595 / 18014398509481984
  coverage_nonneg := by norm_num
  readability_nonneg := by norm_num
  consistency_nonneg := by norm_num
  sum_eq_one := by norm_num

theorem value?_of_read {x : Float} {m k : Nat}
    (h : Decimal.read x = .finite ⟨false, m, .negSucc k⟩) :
    (Number.real x).value? = some ((m : ℚ) / (Nat.pow 2 (k + 1) : Nat)) := by
  simp [Number.value?, Number.place, h, Decimal.Binary.fraction]

theorem usual_of_usualRecord : usual.Of usualRecord := by
  have hcoverage : Decimal.read 0.4 = .finite ⟨false, 7205759403792794, .negSucc 53⟩ := by
    decide +kernel
  have hother : Decimal.read 0.3 = .finite ⟨false, 5404319552844595, .negSucc 53⟩ := by
    decide +kernel
  refine ⟨.real 0.4, .real 0.3, .real 0.3, ⟨rfl, rfl, rfl⟩, ?_, ?_, ?_⟩
  · rw [value?_of_read hcoverage]
    norm_num [usual]
  · rw [value?_of_read hother]
    norm_num [usual]
  · rw [value?_of_read hother]
    norm_num [usual]

theorem assess_commentedScript {record v : Value} {n : Nat}
    (h : completeness (Score.coverage numbers n n) (Score.readability numbers 0 0) n (some record) =
      .ok v) :
    ∃ q, assess (scriptStandards record) (.text "") (.text ".js") (commentedScript n).toValue =
      .ok q ∧ q.completeness = v := by
  have hweights : (scriptStandards record).weights = some record := rfl
  simp only [assess, tally_commentedScript, hweights, bind, Except.bind, Tally.coverage,
    Tally.readability, List.length_replicate, h]
  exact ⟨_, rfl, rfl⟩

/-- Three commented functions in a script are no danger to any of the scores. -/
theorem three_commented_functions_in_range :
    ∃ t, tally (scriptStandards usualRecord) (.text "") (.text ".js")
        (commentedScript 3).toValue = .ok t ∧
      usual.Of usualRecord ∧ IsScore (t.coverage rationals) ∧ IsScore (t.readability rationals) ∧
      IsScore (t.exactly usual) := by
  have hcomplete : (completeness (Score.coverage numbers 3 3) (Score.readability numbers 0 0) 3
      (some usualRecord)).toOption.isSome = true := by
    decide +kernel
  obtain ⟨v, hv⟩ := Option.isSome_iff_exists.mp hcomplete
  obtain ⟨q, hq, -⟩ := assess_commentedScript (Outcome.eq_ok_of_toOption hv)
  obtain ⟨t, ht, -, hscores⟩ := scores_in_range_iff_cost_le_earned hq
  obtain ⟨hcoverage, hreadability, -, hiff, hfew⟩ := hscores usual
  refine ⟨t, ht, usual_of_usualRecord, hcoverage, hreadability, hiff.mpr (hfew ?_)⟩
  rw [tally_commentedScript] at ht
  obtain rfl := Except.ok.inj ht
  decide

/-- Seventy of them take completeness below zero, exactly and as it is reported. -/
theorem seventy_commented_functions_below_zero :
    ∃ q t, assess (scriptStandards usualRecord) (.text "") (.text ".js")
        (commentedScript 70).toValue = .ok q ∧
      tally (scriptStandards usualRecord) (.text "") (.text ".js")
        (commentedScript 70).toValue = .ok t ∧
      usual.Of usualRecord ∧ t.exactly usual < 0 ∧ q.completeness.isBelow 0 = .ok true := by
  have hcomplete : (completeness (Score.coverage numbers 70 70) (Score.readability numbers 0 0) 70
      (some usualRecord) >>= (·.isBelow 0)).toOption = some true := by
    decide +kernel
  obtain ⟨v, hv, hbelow⟩ := Outcome.bind_eq_ok_iff.mp (Outcome.eq_ok_of_toOption hcomplete)
  obtain ⟨q, hq, rfl⟩ := assess_commentedScript hv
  refine ⟨q, _, hq, tally_commentedScript usualRecord 70, usual_of_usualRecord, ?_, hbelow⟩
  rw [exactly_commented_neg_iff]
  norm_num [usual]

end

end Documentation

end Scriptorium
