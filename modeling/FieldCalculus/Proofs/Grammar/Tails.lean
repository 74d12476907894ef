import FieldCalculus.Number.FloatScalar
import FieldCalculus.Proofs.Grammar.Forms
/-!
# Text behind a form

What stands behind the closing bracket of a form is not read, except behind a decay without a
comma: its name runs on to a later bracket if there is one.  Main statement: when text behind
a line changes what the line is read as.
-/

namespace FieldCalculus

open Scan Text

theorem DecayEnd.append {z : List Char} {rate : Option Numeral} (h : DecayEnd z rate)
    (t : List Char) : DecayEnd (z ++ t) rate := by
  cases h with
  | bare => exact .bare
  | rated hw hn =>
      rw [List.cons_append, List.append_assoc]
      exact .rated hw hn

theorem DecayEnd.mem_bracket {z : List Char} {rate : Option Numeral} (h : DecayEnd z rate) :
    ')' ∈ z := by
  cases h with
  | bare => exact List.mem_cons_self
  | rated _ _ => simp

theorem DecayEnd.of_append {z t : List Char} {rate : Option Numeral}
    (h : DecayEnd (z ++ t) rate) (hz : ')' ∈ z) : DecayEnd z rate := by
  generalize htext : z ++ t = text at h
  cases h with
  | bare =>
      obtain ⟨c, more, rfl⟩ := List.exists_cons_of_ne_nil (List.ne_nil_of_mem hz)
      obtain ⟨rfl, _⟩ := List.cons.inj htext
      exact .bare
  | @rated w n behind rate hw hn =>
      have hbefore : ')' ∉ ',' :: (w ++ n) := by
        intro hmem
        rcases List.mem_cons.mp hmem with hmem | hmem
        · exact absurd hmem (by decide)
        · rcases List.mem_append.mp hmem with hmem | hmem
          · exact absurd (hw ')' hmem) (by decide)
          · exact hn.not_mem_bracket hmem
      obtain ⟨more, rfl, _⟩ := exists_append_of_mem htext hbefore hz
      exact .rated hw hn

theorem DecayEnd.unique {z : List Char} {rate rate' : Option Numeral} (h : DecayEnd z rate)
    (h' : DecayEnd z rate') : rate = rate' :=
  Option.some.inj ((decayEnd?_eq_some_iff.mpr h).symm.trans (decayEnd?_eq_some_iff.mpr h'))

/-- The text goes on after a decay without a comma, and closes it once more. -/
def ClosesAgain (t : List Char) : Prop :=
  ∃ v z rate, t = v ++ z ∧ ',' ∉ v ∧ DecayEnd z rate

theorem closesAgain_append_iff {t w : List Char} (hw : ∀ c ∈ w, isBlank c = true) :
    ClosesAgain (t ++ w) ↔ ClosesAgain t := by
  constructor
  · rintro ⟨v, z, rate, htext, hv, hend⟩
    have hnot : ')' ∉ w := fun hmem => absurd (hw ')' hmem) (by decide)
    rcases List.append_eq_append_iff.mp htext with ⟨as, _, rfl⟩ | ⟨z, rfl, rfl⟩
    · exact absurd (List.mem_append_right _ hend.mem_bracket) hnot
    · rcases List.mem_append.mp hend.mem_bracket with hmem | hmem
      · exact ⟨v, z, rate, rfl, hv, hend.of_append hmem⟩
      · exact absurd hmem hnot
  · rintro ⟨v, z, rate, rfl, hv, hend⟩
    exact ⟨v, z ++ w, rate, List.append_assoc _ _ _, hv, hend.append w⟩

/-- The names that arguments offer with text behind them. -/
theorem decayName_append_iff {args t a : List Char} (hlast : args.getLast? = some ')') :
    DecayName (args ++ t) a ↔
      DecayName args a ∨
        ',' ∉ args ∧ ∃ v z rate, a = args ++ v ∧ t = v ++ z ∧ ',' ∉ v ∧ DecayEnd z rate := by
  constructor
  · rintro ⟨hne, hcomma, z, rate, htext, hend⟩
    rcases List.append_eq_append_iff.mp htext with ⟨v, rfl, rfl⟩ | ⟨z', rfl, rfl⟩
    · rw [List.mem_append, not_or] at hcomma
      exact Or.inr ⟨hcomma.1, v, z, rate, rfl, rfl, hcomma.2, hend⟩
    · cases z' with
      | nil =>
          refine Or.inr ⟨by simpa using hcomma, [], t, rate, by simp, rfl, by simp, hend⟩
      | cons c more =>
          rw [List.getLast?_append_of_ne_nil _ (List.cons_ne_nil c more)] at hlast
          have hmem : ')' ∈ c :: more := List.mem_of_mem_getLast? hlast
          exact Or.inl ⟨hne, hcomma, c :: more, rate, rfl, hend.of_append hmem⟩
  · rintro (⟨hne, hcomma, z, rate, rfl, hend⟩ | ⟨hargs, v, z, rate, rfl, rfl, hv, hend⟩)
    · exact ⟨hne, hcomma, z ++ t, rate, List.append_assoc _ _ _, hend.append t⟩
    · refine ⟨?_, ?_, z, rate, by rw [List.append_assoc], hend⟩
      · rintro hnil
        rw [(List.append_eq_nil_iff.mp hnil).1] at hlast
        cases hlast
      · rw [List.mem_append, not_or]
        exact ⟨hargs, hv⟩

variable {α : Type} [OfScientific α]

theorem form_decay_iff {text : List Char} {x : String} {r : α} :
    Form text (.decay x r) ↔
      ∃ args a z rate, text = "∂decay(".toList ++ args ∧ args = a ++ z ∧ DecayEnd z rate ∧
        Longest (DecayName args) a ∧ x = nameOf a ∧ r = rate.elim 0.05 Numeral.value := by
  constructor
  · rintro (_ | _ | _ | _ | _ | _ | _ | ⟨hend, hlongest, hx⟩)
    exact ⟨_, _, _, _, List.append_assoc _ _ _, rfl, hend, hlongest, (gives_iff.mp hx).symm, rfl⟩
  · rintro ⟨_, a, z, rate, rfl, rfl, hend, hlongest, rfl, rfl⟩
    rw [← List.append_assoc]
    exact .decay hend hlongest (gives_nameOf a)

/-- The forms whose last bracket is the first behind their last operand. -/
theorem Form.append {text : List Char} {op : Operation α} (h : Form text op)
    (hkind : op.kind ∈ [Operation.Kind.entangle, .resonance, .phaseTransition, .fractalSpawn,
      .spatialFlow, .regenerate, .symbiosis]) (t : List Char) :
    Form (text ++ t) op := by
  cases h with
  | entangle hab =>
      rw [List.append_assoc]
      exact .entangle hab
  | resonance hab =>
      rw [List.append_assoc]
      exact .resonance hab
  | phaseTransition hab =>
      rw [List.append_assoc]
      exact .phaseTransition hab
  | spatialFlow hab =>
      rw [List.append_assoc]
      exact .spatialFlow hab
  | symbiosis hab =>
      rw [List.append_assoc]
      exact .symbiosis hab
  | fractalSpawn hd ha hcomma hx hw he =>
      simp only [List.append_assoc, List.cons_append]
      simpa only [List.append_assoc, List.cons_append] using
        Form.fractalSpawn hd ha hcomma hx hw he
  | regenerate ha hcomma hx hw hn =>
      simpa only [List.append_assoc, List.cons_append] using Form.regenerate ha hcomma hx hw hn
  | decay | network | interaction | unidirectionalFlow | creation =>
      simp [Operation.kind] at hkind

theorem nameOf_append_ne {a z v : List Char} (hz : ')' ∈ z) :
    nameOf (a ++ z ++ v) ≠ nameOf a := by
  intro hname
  have htrimmed : trimmed (a ++ z ++ v) = trimmed a := String.ofList_inj.mp hname
  have hcount := congrArg (List.count ')') htrimmed
  rw [count_trimmed (by decide), count_trimmed (by decide), List.count_append,
    List.count_append] at hcount
  have hpos := List.count_pos_iff.mpr hz
  omega

theorem form_decay_append_iff {args t : List Char} {x : String} {r : α}
    (h : Form ("∂decay(".toList ++ args) (.decay x r)) (hlast : args.getLast? = some ')') :
    Form ("∂decay(".toList ++ args ++ t) (.decay x r) ↔ ¬ (',' ∉ args ∧ ClosesAgain t) := by
  obtain ⟨_, a, z, rate, hargs, rfl, hend, hlongest, rfl, rfl⟩ := form_decay_iff.mp h
  obtain rfl := List.append_cancel_left hargs
  have hname := fun other => decayName_append_iff (t := t) (a := other) hlast
  constructor
  · rintro hform ⟨hcomma, v, z', rate', ht, hv, hend'⟩
    obtain ⟨_, a', _, _, hargs', _, _, hlongest', hsame, _⟩ := form_decay_iff.mp hform
    rw [List.append_assoc] at hargs'
    obtain rfl := List.append_cancel_left hargs'
    rcases (hname a').mp hlongest'.1 with hshort | ⟨_, v', _, _, rfl, _⟩
    · have hle := hlongest.2 a' hshort
      have hge := hlongest'.2 (a ++ z ++ v)
        ((hname _).mpr (Or.inr ⟨hcomma, v, z', rate', rfl, ht, hv, hend'⟩))
      have hpos := List.length_pos_of_mem hend.mem_bracket
      rw [List.length_append, List.length_append] at hge
      omega
    · exact nameOf_append_ne hend.mem_bracket hsame.symm
  · intro hno
    have hsame : ∀ other, DecayName (a ++ z ++ t) other → DecayName (a ++ z) other := by
      intro other hother
      rcases (hname other).mp hother with hshort | ⟨hcomma, v, z', rate', _, ht, hv, hend'⟩
      · exact hshort
      · exact absurd ⟨hcomma, v, z', rate', ht, hv, hend'⟩ hno
    refine form_decay_iff.mpr ⟨a ++ z ++ t, a, z ++ t, rate, List.append_assoc _ _ _,
      List.append_assoc _ _ _, hend.append t, ⟨?_, ?_⟩, rfl, rfl⟩
    · exact (hname a).mpr (Or.inl hlongest.1)
    · exact fun other hother => hlongest.2 other (hsame other hother)

/-- Text behind a line that ends in a bracket changes what the line is read as if and only if
the line is a decay without a comma and the text closes it once more. -/
theorem recognize_append_eq_iff (s t : String) (hlast : s.toList.getLast? = some ')')
    (hkind : (recognize s : Operation α).kind ∈ [Operation.Kind.entangle, .resonance,
      .phaseTransition, .fractalSpawn, .spatialFlow, .regenerate, .decay, .symbiosis]) :
    (recognize (s ++ t) : Operation α) = recognize s ↔
      ¬ ((recognize s : Operation α).kind = .decay ∧ ',' ∉ s.toList ∧ ClosesAgain t.toList) := by
  obtain ⟨kept, w, ht, hw, htrimmed⟩ := exists_trimmed_append hlast (by decide) t.toList
  rw [← String.toList_append] at htrimmed
  generalize hop : (recognize s : Operation α) = op at hkind ⊢
  have hknown : op.kind ≠ .unknown := by
    intro hunknown
    rw [hunknown] at hkind
    revert hkind
    decide
  have hread : ∀ line, (recognize line : Operation α) = op ↔ Form (trimmed line.toList) op :=
    fun _ => recognize_eq_iff_of_known hknown
  rw [hread, htrimmed, ht, closesAgain_append_iff hw]
  have hform := (hread s).mp hop
  by_cases hdecay : op.kind = .decay
  · obtain ⟨x, r, rfl⟩ : ∃ x r, op = .decay x r := by
      cases op <;> cases hdecay
      exact ⟨_, _, rfl⟩
    obtain ⟨args, a, z, rate, hargs, rfl, hend, _⟩ := form_decay_iff.mp hform
    have hne : a ++ z ≠ [] :=
      List.append_ne_nil_of_right_ne_nil _ (List.ne_nil_of_mem hend.mem_bracket)
    have hlast' : (a ++ z).getLast? = some ')' := by
      have hwhole := getLast?_trimmed hlast (by decide)
      rwa [hargs, List.getLast?_append_of_ne_nil _ hne] at hwhole
    have hopen : ',' ∉ "∂decay(".toList := by decide
    have hcomma : ',' ∈ a ++ z ↔ ',' ∈ s.toList := by
      rw [← mem_trimmed_iff (by decide) s.toList, hargs]
      exact (List.mem_append.trans (or_iff_right hopen)).symm
    rw [hargs] at hform ⊢
    rw [form_decay_append_iff hform hlast', hcomma]
    simp [Operation.kind]
  · have hother : ∀ kind ∈ [Operation.Kind.entangle, .resonance, .phaseTransition, .fractalSpawn,
        .spatialFlow, .regenerate, .decay, .symbiosis], kind ≠ .decay →
        kind ∈ [Operation.Kind.entangle, .resonance, .phaseTransition, .fractalSpawn,
          .spatialFlow, .regenerate, .symbiosis] := by
      decide
    exact iff_of_true (hform.append (hother _ hkind hdecay) kept) fun h => hdecay h.1

/-- Behind a decay with a rate even a bracket is not read. -/
theorem recognize_append_eq_decay_with_rate :
    "∂decay(sun, 0.1)".toList.getLast? = some ')' ∧
      (recognize "∂decay(sun, 0.1)" : Operation Float).kind ∈ [Operation.Kind.entangle, .resonance,
        .phaseTransition, .fractalSpawn, .spatialFlow, .regenerate, .decay, .symbiosis] ∧
      (recognize ("∂decay(sun, 0.1)" ++ " and (moon)") : Operation Float) =
        recognize "∂decay(sun, 0.1)" := by
  have hlast : "∂decay(sun, 0.1)".toList.getLast? = some ')' := by decide
  have hkind : (recognize "∂decay(sun, 0.1)" : Operation Float).kind ∈ [Operation.Kind.entangle,
      .resonance, .phaseTransition, .fractalSpawn, .spatialFlow, .regenerate, .decay,
      .symbiosis] := by
    decide +kernel
  refine ⟨hlast, hkind, (recognize_append_eq_iff _ _ hlast hkind).mpr ?_⟩
  rintro ⟨_, hcomma, _⟩
  exact hcomma (by decide)

/-- Behind a decay without a comma a later bracket is read, and the name runs on to it. -/
theorem recognize_append_ne_second_bracket :
    (recognize "∂decay(a)" : Operation Float) = .decay "a" 0.05 ∧
      (recognize ("∂decay(a)" ++ " and (b)") : Operation Float) = .decay "a) and (b" 0.05 ∧
      (recognize ("∂decay(a)" ++ " and (b)") : Operation Float) ≠ recognize "∂decay(a)" := by
  have hshort : (recognize "∂decay(a)" : Operation Float) = .decay "a" 0.05 := by
    decide +kernel
  have hlong : (recognize ("∂decay(a)" ++ " and (b)") : Operation Float) =
      .decay "a) and (b" 0.05 := by
    decide +kernel
  refine ⟨hshort, hlong, ?_⟩
  rw [hshort, hlong]
  intro h
  exact absurd (Operation.decay.inj h).1 (by decide)

end FieldCalculus
