import MonorepoCheck.Proofs.Diagnostic.Fingerprint
import MonorepoCheck.Run

/-!
Filters that ask for the same in other words: the same codes in another order or case, the same files
in another order. Nothing tells them apart, neither their fingerprints nor what they accept, so a run
takes the same course under either.
-/
namespace MonorepoCheck

namespace Text

/-- One character, or one letter of the alphabet as a capital and as a small letter. -/
def SameLetter (c d : Char) : Prop :=
  c = d ∨ ∃ n < 26, c.toNat = 65 + n ∧ d.toNat = 97 + n ∨ c.toNat = 97 + n ∧ d.toNat = 65 + n

instance (c d : Char) : Decidable (SameLetter c d) :=
  inferInstanceAs (Decidable (_ ∨ ∃ n < 26, _))

theorem upperAscii_small {c : Char} {n : Nat} (bound : n < 26) (small : c.toNat = 97 + n) :
    upperAscii c = Char.ofNat (65 + n) := by
  have lower : ('a' ≤ c && c ≤ 'z') = true := by
    simp only [Bool.and_eq_true, decide_eq_true_eq, Char.le_def, UInt32.le_iff_toNat_le]
    exact ⟨show 97 ≤ c.toNat by omega, show c.toNat ≤ 122 by omega⟩
  rw [upperAscii, if_pos lower, small, show 97 + n - 32 = 65 + n by omega]

theorem upperAscii_capital {c : Char} {n : Nat} (bound : n < 26) (capital : c.toNat = 65 + n) :
    upperAscii c = Char.ofNat (65 + n) := by
  have other : isLowerAscii c = false := by
    simp only [isLowerAscii, Bool.and_eq_false_iff, decide_eq_false_iff_not, Char.le_def,
      UInt32.le_iff_toNat_le]
    exact .inl (show ¬ 97 ≤ c.toNat by omega)
  rw [upperAscii_of_not_lower other, ← capital, Char.ofNat_toNat]

theorem SameLetter.upperAscii_eq {c d : Char} (same : SameLetter c d) :
    upperAscii c = upperAscii d := by
  rcases same with rfl | ⟨n, bound, ⟨capital, small⟩ | ⟨small, capital⟩⟩
  · rfl
  · rw [upperAscii_capital bound capital, upperAscii_small bound small]
  · rw [upperAscii_small bound small, upperAscii_capital bound capital]

theorem map_eq_of_forall₂ {α β : Type} {alike : α → α → Prop} {f : α → β} {items others : List α}
    (each : ∀ a b, alike a b → f a = f b) (pairs : List.Forall₂ alike items others) :
    items.map f = others.map f := by
  induction pairs with
  | nil => rfl
  | cons pair _ ih => rw [List.map_cons, List.map_cons, each _ _ pair, ih]

theorem upperAsciiText_eq {a b : String} (same : List.Forall₂ SameLetter a.toList b.toList) :
    upperAsciiText a = upperAsciiText b := by
  rw [upperAsciiText, upperAsciiText, String.ofList_inj]
  exact map_eq_of_forall₂ (fun _ _ => SameLetter.upperAscii_eq) same

end Text

namespace Filter

variable {filter other : Filter}

/-- Whether two filters name the same codes in any order, each letter in either case, and the same
files in any order. -/
structure Respelt (filter other : Filter) : Prop where
  codes : ∃ codes, filter.codes.Perm codes
    ∧ List.Forall₂ (fun a b => List.Forall₂ Text.SameLetter a.toList b.toList) codes other.codes
  files : filter.files.Perm other.files

namespace Respelt

/-- Capitals forget the case, and a permutation is all that is left. -/
theorem upperCodes_perm (respelt : Respelt filter other) :
    filter.upperCodes.Perm other.upperCodes := by
  obtain ⟨codes, reordered, recased⟩ := respelt.codes
  have capitals := Text.map_eq_of_forall₂ (fun _ _ same => Text.upperAsciiText_eq same) recased
  rw [upperCodes, upperCodes, ← capitals]
  exact reordered.map Text.upperAsciiText

theorem fingerprint_eq (respelt : Respelt filter other) : filter.fingerprint = other.fingerprint :=
  fingerprint_of_perm respelt.upperCodes_perm respelt.files

theorem accepts_eq (respelt : Respelt filter other) : filter.accepts = other.accepts := by
  funext d
  rw [accepts, accepts, acceptsCode_of_perm respelt.upperCodes_perm,
    acceptsFile_of_perm respelt.files]

theorem apply_eq (respelt : Respelt filter other) : filter.apply = other.apply := by
  funext found
  rw [apply_eq_filter, apply_eq_filter, respelt.accepts_eq]

theorem isEmpty_eq (respelt : Respelt filter other) : filter.isEmpty = other.isEmpty := by
  obtain ⟨codes, reordered, recased⟩ := respelt.codes
  have lengths : filter.codes.length = other.codes.length :=
    reordered.length_eq.trans recased.length_eq
  rw [isEmpty, isEmpty, respelt.files.isEmpty_eq, Bool.eq_iff_iff]
  simp only [Bool.and_eq_true, List.isEmpty_iff_length_eq_zero, lengths]

end Respelt
end Filter

namespace ScanPlan

/-- The same plan with another filter. -/
def under (plan : ScanPlan) (filter : Filter) : ScanPlan := { plan with filter := filter }

variable {plan : ScanPlan} {filter other : Filter}

theorem fingerprint_under (same : filter.fingerprint = other.fingerprint) :
    (plan.under filter).fingerprint = (plan.under other).fingerprint := by
  rw [fingerprint, fingerprint]
  simp only [under, same]

theorem collect_under (same : filter.apply = other.apply) :
    (plan.under filter).collect = (plan.under other).collect := by
  have collections : (plan.under filter).collection = (plan.under other).collection := by
    funext host unit outcome
    cases outcome with
    | completed success code output =>
        simp only [collection, under, same]
        rfl
    | timedOut => rfl
    | failedToStart => rfl
  funext host unit
  rw [collect, collect, collections]
  rfl

theorem applyRemedy_under (same : filter.apply = other.apply) :
    (plan.under filter).applyRemedy = (plan.under other).applyRemedy := by
  funext host unit before
  rw [applyRemedy, applyRemedy, collect_under same]
  rfl

theorem keptReport?_under (same : filter.fingerprint = other.fingerprint) :
    (plan.under filter).keptReport? = (plan.under other).keptReport? := by
  funext cache host unit
  rw [keptReport?, keptReport?, fingerprint_under same]
  rfl

/-- All that a scan asks of its filter is the fingerprint, and which diagnostics it accepts. -/
theorem scan_under (fingerprints : filter.fingerprint = other.fingerprint)
    (same : filter.apply = other.apply) :
    (plan.under filter).scan = (plan.under other).scan := by
  funext cache host unit
  have anew : (plan.under filter).scanAnew = (plan.under other).scanAnew := by
    funext cache host unit
    rw [scanAnew, scanAnew, collect_under same, applyRemedy_under same,
      fingerprint_under fingerprints]
  rw [scan, scan, keptReport?_under fingerprints, anew]

end ScanPlan

namespace Run

theorem scan_respelt {filter other : Filter} (respelt : filter.Respelt other) (settings : Settings)
    (options : RunOptions) (runner : Runner) (host : Host) :
    scan settings { options with filter := filter } runner host
      = scan settings { options with filter := other } runner host := by
  have scans (root : Path) (schedule : Schedule) :
      scanAll settings { options with filter := filter } runner host root schedule
        = scanAll settings { options with filter := other } runner host root schedule := by
    have each := (plan settings options runner root).scan_under respelt.fingerprint_eq
      respelt.apply_eq
    exact congrArg (fun scan => Batches.run (settings.execution.batchSize host.workers)
      Host.cancelled (scan (cache? settings host root)) host schedule.order) each
  simp only [scan, scans]

end Run

namespace Filter

/-- Filters that ask for the same in other words are one to the cache, and to every run. -/
theorem respelt_interchangeable {filter other : Filter} (respelt : filter.Respelt other) :
    filter.fingerprint = other.fingerprint
      ∧ filter.isEmpty = other.isEmpty
      ∧ (∀ d, filter.accepts d = other.accepts d)
      ∧ (∀ found, filter.apply found = other.apply found)
      ∧ (∀ (plan : ScanPlan) cache host unit,
        (plan.under filter).keptReport? cache host unit
          = (plan.under other).keptReport? cache host unit)
      ∧ ∀ settings (options : RunOptions) runner host,
        Run.scan settings { options with filter := filter } runner host
          = Run.scan settings { options with filter := other } runner host := by
  refine ⟨respelt.fingerprint_eq, respelt.isEmpty_eq, ?accepts, ?apply, ?kept,
    Run.scan_respelt respelt⟩
  case accepts => exact fun d => congrFun respelt.accepts_eq d
  case apply => exact fun found => congrFun respelt.apply_eq found
  case kept =>
      intro plan cache host unit
      rw [ScanPlan.keptReport?_under respelt.fingerprint_eq]

/-- Codes in small letters and out of order, one of them twice, and one with a letter that has no other
case here. -/
theorem respelt_interchangeable_small :
    Respelt ⟨["ts2339", "TS1", "É", "ts1"], ["src", "*.ts"]⟩
        ⟨["É", "tS1", "Ts2339", "TS1"], ["*.ts", "src"]⟩
      ∧ fingerprint ⟨["ts2339", "TS1", "É", "ts1"], ["src", "*.ts"]⟩
        = fingerprint ⟨["É", "tS1", "Ts2339", "TS1"], ["*.ts", "src"]⟩ := by
  have respelt : Respelt ⟨["ts2339", "TS1", "É", "ts1"], ["src", "*.ts"]⟩
      ⟨["É", "tS1", "Ts2339", "TS1"], ["*.ts", "src"]⟩ := by
    refine ⟨⟨["É", "TS1", "ts2339", "ts1"], by decide, ?_⟩, List.Perm.swap "*.ts" "src" []⟩
    decide +kernel
  exact ⟨respelt, (respelt_interchangeable respelt).1⟩

end Filter

end MonorepoCheck
