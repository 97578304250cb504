import Baggage.Proofs.Decimal.Numeral
import Baggage.Settings.Port
import Mathlib.Data.List.DropRight

/-!
# Baggage.Proofs.Settings.Port

**Which texts are ports, and what becomes of the settings.** A text is a port if a natural number
below 65536 stands in it between blanks (`IsPort`), and `port?` finds exactly these
(`port?_eq_some_iff`). So an override can be told without `port?`: it sets the port, or refuses the
text and leaves everything as it is (`overrides`). What it leaves behind is part of the step itself
(`applyPort`), not only of its success.

Overrides in a row are a fold of such steps. Each keeps all settings but the port, and a refused one
keeps the port too, so that the last one that is granted decides (`afterOverrides_exact`).
-/

namespace Baggage

/-! ### Trimming -/

namespace Text

theorem dropWhile_blanks {before text : List Char} (after : List Char)
    (hbefore : ∀ c ∈ before, isBlank c = true) (htext : ∀ c ∈ text, isBlank c = false)
    (hne : text ≠ []) : (before ++ text ++ after).dropWhile isBlank = text ++ after := by
  rw [List.append_assoc, List.dropWhile_append_of_pos hbefore]
  cases text with
  | nil => exact absurd rfl hne
  | cons c rest =>
      have hc : isBlank c = false := htext c List.mem_cons_self
      rw [List.cons_append, List.dropWhile_cons_of_neg (by simp [hc])]

/-- A text without blanks is what trimming leaves of it when blanks are put around it. -/
theorem trim_eq {before text after : List Char} (hbefore : ∀ c ∈ before, isBlank c = true)
    (htext : ∀ c ∈ text, isBlank c = false) (hne : text ≠ [])
    (hafter : ∀ c ∈ after, isBlank c = true) : trim (before ++ text ++ after) = text := by
  have hback := @dropWhile_blanks after.reverse text.reverse []
    (fun c hc => hafter c (List.mem_reverse.mp hc)) (fun c hc => htext c (List.mem_reverse.mp hc))
    (mt List.reverse_eq_nil_iff.mp hne)
  rw [List.append_nil, List.append_nil] at hback
  rw [trim, dropWhile_blanks after hbefore htext hne, List.reverse_append, hback,
    List.reverse_reverse]

/-- Only blanks are trimmed. -/
theorem exists_eq_trim (text : List Char) : ∃ before after, text = before ++ trim text ++ after ∧
    (∀ c ∈ before, isBlank c = true) ∧ ∀ c ∈ after, isBlank c = true := by
  have htrim : trim text = (text.dropWhile isBlank).rdropWhile isBlank := rfl
  refine ⟨text.takeWhile isBlank, (text.dropWhile isBlank).rtakeWhile isBlank, ?_,
    fun c => List.mem_takeWhile_imp, fun c => List.mem_rtakeWhile_imp⟩
  rw [htrim, List.append_assoc, List.rdropWhile_append_rtakeWhile,
    List.takeWhile_append_dropWhile]

end Text

/-! ### Ports -/

namespace Numeral

theorem isBlank_of_isDigit {c : Char} (h : c.isDigit = true) : Text.isBlank c = false := by
  obtain ⟨hlow, hhigh⟩ := toNat_of_isDigit h
  simp only [Text.isBlank, Bool.or_eq_false_iff, Bool.and_eq_false_iff, decide_eq_false_iff_not,
    beq_eq_false_iff_ne]
  omega

theorem IsNatural.ne_nil {text : List Char} {n : ℕ} (h : IsNatural text n) : text ≠ [] := by
  obtain ⟨sign, digits, rfl, -, hne, -, -⟩ := h
  exact List.append_ne_nil_of_right_ne_nil sign hne

theorem IsNatural.isBlank {text : List Char} {n : ℕ} (h : IsNatural text n) :
    ∀ c ∈ text, Text.isBlank c = false := by
  obtain ⟨sign, digits, rfl, hsign, -, hdigits, -⟩ := h
  intro c hc
  rcases List.mem_append.mp hc with hc | hc
  · rcases hsign with rfl | rfl
    · cases hc
    · obtain rfl := List.mem_singleton.mp hc
      decide
  · exact isBlank_of_isDigit (hdigits c hc)

end Numeral

namespace Settings

/-- Whether a text is a port: a natural number that fits in 16 bits stands in it between blanks. -/
def IsPort (text : String) (n : ℕ) : Prop :=
  ∃ before number after, text.toList = before ++ number ++ after ∧
    (∀ c ∈ before, Text.isBlank c = true) ∧ (∀ c ∈ after, Text.isBlank c = true) ∧
    Numeral.IsNatural number n ∧ n ≤ 65535

theorem port?_eq_some_iff {text : String} {port : UInt16} :
    port? text = some port ↔ IsPort text port.toNat := by
  simp only [port?, Option.bind_eq_some_iff, Option.ite_none_right_eq_some, Option.some.injEq,
    Numeral.natural?_eq_some_iff]
  constructor
  · rintro ⟨n, hn, hlt, rfl⟩
    obtain ⟨before, after, htext, hbefore, hafter⟩ := Text.exists_eq_trim text.toList
    have hnat : (UInt16.ofNat n).toNat = n := UInt16.toNat_ofNat_of_lt' hlt
    rw [hnat]
    exact ⟨before, _, after, htext, hbefore, hafter, hn, by omega⟩
  · rintro ⟨before, number, after, htext, hbefore, hafter, hnumber, hle⟩
    refine ⟨port.toNat, ?_, by omega, UInt16.ofNat_toNat⟩
    rw [htext, Text.trim_eq hbefore hnumber.isBlank hnumber.ne_nil hafter]
    exact hnumber

theorem isPort_iff {text : String} {n : ℕ} :
    IsPort text n ↔ ∃ port, port? text = some port ∧ port.toNat = n := by
  constructor
  · intro h
    obtain ⟨-, -, -, -, -, -, -, hle⟩ := id h
    have hnat : (UInt16.ofNat n).toNat = n := UInt16.toNat_ofNat_of_lt' (Nat.lt_succ_of_le hle)
    exact ⟨UInt16.ofNat n, port?_eq_some_iff.mpr (hnat.symm ▸ h), hnat⟩
  · rintro ⟨port, hport, rfl⟩
    exact port?_eq_some_iff.mp hport

theorem port?_eq_none_iff {text : String} : port? text = none ↔ ∀ n, ¬ IsPort text n := by
  simp [isPort_iff, Option.eq_none_iff_forall_ne_some]

/-! ### Overrides -/

variable {α : Type} {s : Settings α}

@[simp] theorem withPort_port (s : Settings α) (port : UInt16) :
    (s.withPort port).server.port = port := rfl

@[simp] theorem withPort_withPort (s : Settings α) (port other : UInt16) :
    (s.withPort port).withPort other = s.withPort other := rfl

/-- The settings that an override leaves behind, whatever its result. -/
def afterOverride (s : Settings α) (text : Option String) : Settings α := (s.applyPort text).1

/-- **What an override of the port does.** -/
structure Overrides (s : Settings α) (text : Option String) : Prop where
  /-- It is one step, which leaves settings behind and has a result. -/
  step : s.applyPort text = (s.afterOverride text, (s.overridePort text).map fun _ => ())
  /-- It succeeds without a text, and with a text that is a port. -/
  succeeds_iff : (∃ after, s.overridePort text = .ok after) ↔
    ∀ given, text = some given → ∃ n, IsPort given n
  /-- A failure quotes the text, the blanks around it included, and leaves everything as it is. -/
  failure : ∀ fault, s.overridePort text = .error fault → s.afterOverride text = s ∧
    ∃ given, text = some given ∧ fault = ⟨"PORT", "'" ++ given ++ "' is not a valid port"⟩
  /-- The port is the number in the text. -/
  port : ∀ given n, text = some given → IsPort given n →
    (s.afterOverride text).server.port.toNat = n
  /-- Without a text, nothing changes. -/
  absent : text = none → s.afterOverride text = s
  /-- Nothing but the port changes. -/
  frame : ∃ port, s.afterOverride text = s.withPort port

theorem overrides (s : Settings α) (text : Option String) : Overrides s text := by
  cases text with
  | none =>
      exact
        { step := rfl
          succeeds_iff := iff_of_true ⟨s, rfl⟩ nofun
          failure := nofun
          port := nofun
          absent := fun _ => rfl
          frame := ⟨s.server.port, rfl⟩ }
  | some given =>
      cases hport : port? given with
      | some port =>
          have hstep : s.applyPort (some given) = (s.withPort port, .ok ()) := by
            rw [applyPort, hport]
          have hoverride : s.overridePort (some given) = .ok (s.withPort port) := by
            rw [overridePort, hstep]
            rfl
          have hafter : s.afterOverride (some given) = s.withPort port := congrArg Prod.fst hstep
          refine
            { step := by rw [hafter, hoverride, hstep]; rfl
              succeeds_iff := iff_of_true ⟨_, hoverride⟩ ?_
              failure := ?_
              port := ?_
              absent := nofun
              frame := ⟨port, hafter⟩ }
          · rintro _ ⟨rfl⟩
            exact ⟨_, port?_eq_some_iff.mp hport⟩
          · intro fault hfault
            cases hoverride.symm.trans hfault
          · rintro _ n ⟨rfl⟩ hn
            obtain ⟨other, hother, rfl⟩ := isPort_iff.mp hn
            obtain rfl := Option.some.inj (hport.symm.trans hother)
            rw [hafter, withPort_port]
      | none =>
          have hnone := port?_eq_none_iff.mp hport
          have hstep : s.applyPort (some given)
              = (s, .error ⟨"PORT", "'" ++ given ++ "' is not a valid port"⟩) := by
            rw [applyPort, hport]
          have hoverride : s.overridePort (some given)
              = .error ⟨"PORT", "'" ++ given ++ "' is not a valid port"⟩ := by
            rw [overridePort, hstep]
            rfl
          have hafter : s.afterOverride (some given) = s := congrArg Prod.fst hstep
          refine
            { step := by rw [hafter, hoverride, hstep]; rfl
              succeeds_iff := iff_of_false ?_ ?_
              failure := ?_
              port := ?_
              absent := nofun
              frame := ⟨s.server.port, hafter⟩ }
          · rintro ⟨after, hok⟩
            cases hoverride.symm.trans hok
          · intro h
            obtain ⟨n, hn⟩ := h given rfl
            exact hnone n hn
          · intro fault hfault
            exact ⟨hafter, given, rfl, (Except.error.inj (hoverride.symm.trans hfault)).symm⟩
          · rintro _ n ⟨rfl⟩ hn
            exact absurd hn (hnone n)

/-! ### Overrides in a row -/

/-- The settings that overrides leave behind, one after the other. -/
def afterOverrides (s : Settings α) (texts : List (Option String)) : Settings α :=
  texts.foldl afterOverride s

theorem afterOverrides_append (before after : List (Option String)) :
    s.afterOverrides (before ++ after) = (s.afterOverrides before).afterOverrides after :=
  List.foldl_append

theorem afterOverrides_frame (s : Settings α) (texts : List (Option String)) :
    ∃ port, s.afterOverrides texts = s.withPort port := by
  induction texts generalizing s with
  | nil => exact ⟨s.server.port, rfl⟩
  | cons text rest ih =>
      obtain ⟨port, hport⟩ := (overrides s text).frame
      obtain ⟨last, hlast⟩ := ih (s.afterOverride text)
      refine ⟨last, ?_⟩
      calc s.afterOverrides (text :: rest)
          = (s.afterOverride text).withPort last := hlast
        _ = s.withPort last := by rw [hport, withPort_withPort]

/-- Texts that are no ports leave everything as it is. -/
theorem afterOverrides_of_refused {texts : List (Option String)}
    (h : ∀ given, some given ∈ texts → ∀ n, ¬ IsPort given n) : s.afterOverrides texts = s := by
  induction texts with
  | nil => rfl
  | cons text rest ih =>
      have hstep : s.afterOverride text = s := by
        cases text with
        | none => rfl
        | some given =>
            have hnone := port?_eq_none_iff.mpr (h given List.mem_cons_self)
            rw [afterOverride, applyPort, hnone]
      have hrest : s.afterOverrides rest = s :=
        ih fun given hgiven => h given (List.mem_cons_of_mem text hgiven)
      calc s.afterOverrides (text :: rest)
          = (s.afterOverride text).afterOverrides rest := rfl
        _ = s := by rw [hstep, hrest]

/-- **Overrides in a row are exact and atomic.** Each is granted or refused as `Overrides` says, in
the settings that the ones before it left behind. All of them together change nothing but the port.
The last text that is a port decides, and where there is none, everything stays as it was. -/
theorem afterOverrides_exact (s : Settings α) (texts : List (Option String)) :
    (∀ before text after, texts = before ++ text :: after →
      Overrides (s.afterOverrides before) text ∧
      s.afterOverrides (before ++ [text]) = (s.afterOverrides before).afterOverride text) ∧
    (∃ port, s.afterOverrides texts = s.withPort port) ∧
    (∀ before given n after, texts = before ++ some given :: after → IsPort given n →
      (∀ later, some later ∈ after → ∀ m, ¬ IsPort later m) →
      (s.afterOverrides texts).server.port.toNat = n) ∧
    ((∀ given, some given ∈ texts → ∀ n, ¬ IsPort given n) → s.afterOverrides texts = s) := by
  refine ⟨?_, afterOverrides_frame s texts, ?_, afterOverrides_of_refused⟩
  · intro before text after _
    exact ⟨overrides _ text, afterOverrides_append before [text]⟩
  · rintro before given n after rfl hn hlater
    have hsplit : s.afterOverrides (before ++ some given :: after)
        = ((s.afterOverrides before).afterOverride (some given)).afterOverrides after :=
      afterOverrides_append before (some given :: after)
    rw [hsplit, afterOverrides_of_refused hlater]
    exact (overrides _ (some given)).port given n rfl hn

/-- A text with blanks, a plus sign and zeros is a port; a number that is too great and one with a
minus sign are not, and the port stays. -/
theorem afterOverrides_standard_exact :
    IsPort " +0080\t" 80 ∧ ((standard : Settings Float).afterOverrides
      [some "443", some " +0080\t", none, some "65536", some "-1"]).server.port.toNat = 80 := by
  have hport : IsPort " +0080\t" 80 := isPort_iff.mpr ⟨80, by decide +kernel, rfl⟩
  have hlater : ∀ later, some later ∈ [none, some "65536", some "-1"] → ∀ m, ¬ IsPort later m := by
    intro later hmem
    simp only [List.mem_cons, List.not_mem_nil, or_false, reduceCtorEq, false_or,
      Option.some.injEq] at hmem
    rcases hmem with rfl | rfl
    · exact port?_eq_none_iff.mp (by decide +kernel)
    · exact port?_eq_none_iff.mp (by decide +kernel)
  exact ⟨hport, (afterOverrides_exact _ _).2.2.1 [some "443"] " +0080\t" 80 _ rfl hport hlater⟩

end Settings

end Baggage
