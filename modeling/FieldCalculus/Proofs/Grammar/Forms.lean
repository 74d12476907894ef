import Mathlib.Data.List.Nodup
import FieldCalculus.Proofs.Grammar.Recognition
/-!
# The forms of a line

A grammar of lines that mentions no rule: which texts have the form of which operation.
Main statement: a line is read as an operation exactly if its trimmed text has the form of
that operation, and a text without a form is handed back as it is.
-/

namespace FieldCalculus

open Scan Text

/-- Two operands of a form and the names that they give.  The first operand reaches to the
separator and the second to the closing bracket behind it. -/
structure Operands (separator : Char) (a b : List Char) (x y : String) : Prop where
  first_ne_nil : a ≠ []
  not_mem_first : separator ∉ a
  second_ne_nil : b ≠ []
  not_mem_second : ')' ∉ b
  first_gives : Gives a x
  second_gives : Gives b y

/-- What closes a decay: a bracket, or a comma, the rate and a bracket. -/
inductive DecayEnd : List Char → Option Numeral → Prop
  | bare {t : List Char} : DecayEnd (')' :: t) none
  | rated {w n t : List Char} {rate : Numeral} : (∀ c ∈ w, isBlank c = true) → rate.Spells n →
      DecayEnd (',' :: (w ++ n ++ ')' :: t)) (some rate)

/-- A name that could stand at the front of a decay's arguments. -/
def DecayName (text a : List Char) : Prop :=
  a ≠ [] ∧ ',' ∉ a ∧ ∃ z rate, text = a ++ z ∧ DecayEnd z rate

variable {α : Type}

/-- The texts that ask for an operation.  Behind the form any text may follow. -/
inductive Form [OfScientific α] : List Char → Operation α → Prop
  | entangle {a b t : List Char} {x y : String} : Operands ',' a b x y →
      Form ("⊗(".toList ++ a ++ ',' :: b ++ ')' :: t) (.entangle x y)
  | resonance {a b t : List Char} {x y : String} : Operands '≈' a b x y →
      Form ("~(".toList ++ a ++ '≈' :: b ++ ')' :: t) (.resonance x y)
  | phaseTransition {a b t : List Char} {x phase : String} : Operands ',' a b x phase →
      Form ("∂phase(".toList ++ a ++ ',' :: b ++ ')' :: t) (.phaseTransition x phase)
  | spatialFlow {a b t : List Char} {x y : String} : Operands ',' a b x y →
      Form ("∇spatial(".toList ++ a ++ ',' :: b ++ ')' :: t) (.spatialFlow x y)
  | symbiosis {a b t : List Char} {x y : String} : Operands '⇄' a b x y →
      Form ("∇∇(".toList ++ a ++ '⇄' :: b ++ ')' :: t) (.symbiosis x y)
  | fractalSpawn {d a w e t : List Char} {x : String} {iterations depth : Nat} :
      Numeral.Writes d iterations → a ≠ [] → ',' ∉ a → Gives a x →
      (∀ c ∈ w, isBlank c = true) → Numeral.Writes e depth →
      Form ("∮^".toList ++ d ++ '(' :: (a ++ ',' :: (w ++ e ++ ')' :: t)))
        (.fractalSpawn x (Numeral.value ⟨iterations, 0⟩) (Numeral.value ⟨depth, 0⟩))
  | regenerate {a w n t : List Char} {x : String} {energy : Numeral} : a ≠ [] → ',' ∉ a →
      Gives a x → (∀ c ∈ w, isBlank c = true) → energy.Spells n →
      Form ("∮regenerate(".toList ++ a ++ ',' :: (w ++ n ++ ')' :: t))
        (.regenerate x energy.value)
  | decay {a z : List Char} {x : String} {rate : Option Numeral} : DecayEnd z rate →
      Longest (DecayName (a ++ z)) a → Gives a x →
      Form ("∂decay(".toList ++ a ++ z) (.decay x (rate.elim 0.05 Numeral.value))
  | network {text body c : List Char} {names : List String} : Constrained text body c →
      Lists '↔' body names →
      Form ("∇³".toList ++ text) (.network names (String.ofList c))
  | interaction {g text body c : List Char} {names : List String} : g = [] ∨ g = ['²'] →
      Constrained text body c → '↔' ∈ body → Lists '↔' body names →
      Form ('∇' :: g ++ text) (.interaction names (String.ofList c))
  | unidirectionalFlow {g text body c : List Char} {names : List String} : g = [] ∨ g = ['²'] →
      Constrained text body c → '↔' ∉ body → '→' ∈ body → Lists '→' body names →
      Form ('∇' :: g ++ text) (.unidirectionalFlow names (String.ofList c))
  | creation {x : String} {w w' n t : List Char} {energy : Numeral} : Run isWordChar x.toList →
      (∀ c ∈ w, isBlank c = true) → (∀ c ∈ w', isBlank c = true) → energy.Spells n →
      Longest (fun p => p <+: n ++ t ∧ ∃ m : Numeral, m.Spells p) n →
      Form (x.toList ++ w ++ '=' :: (w' ++ n ++ t)) (.creation x energy.value)

theorem nameOf_of_word {a : List Char} (h : Run isWordChar a) : nameOf a = String.ofList a := by
  rw [nameOf, trimmed_of_not_blank]
  intro c hc
  cases hblank : isBlank c with
  | false => rfl
  | true =>
      have hword := isWordChar_of_isBlank hblank
      rw [h.2 c hc] at hword
      cases hword

theorem gives_of_word {x : String} (h : Run isWordChar x.toList) : Gives x.toList x :=
  gives_iff.mpr (by rw [nameOf_of_word h, String.ofList_toList])

/-! ## The end of a decay -/

theorem rate?_eq_some_iff {text : List Char} {rate : Numeral} :
    rate? text = some rate ↔ DecayEnd text (some rate) := by
  have hcomma : ∀ rest : List Char, ",".toList ++ rest = ',' :: rest := fun _ => rfl
  have hclose : ∀ rest : List Char, ")".toList ++ rest = ')' :: rest := fun _ => rfl
  simp only [rate?, Option.bind_eq_bind, Option.bind_eq_some_iff, Prod.exists,
    literal?_eq_some_iff, Option.pure_def, Option.some.injEq, hcomma, hclose]
  constructor
  · rintro ⟨_, rfl, _, _, hn, t, rfl, rfl⟩
    obtain ⟨w, n, rfl, hw, hn⟩ := decimal?_blanks_eq_some_iff.mp hn
    exact .rated hw hn
  · rintro (_ | ⟨hw, hn⟩)
    exact ⟨_, rfl, rate, _, decimal?_blanks_eq_some_iff.mpr ⟨_, _, rfl, hw, hn⟩, _, rfl, rfl⟩

theorem decayEnd?_eq_some_iff {text : List Char} {rate : Option Numeral} :
    decayEnd? text = some rate ↔ DecayEnd text rate := by
  unfold decayEnd?
  cases hread : rate? text with
  | some n =>
      have hrated := rate?_eq_some_iff.mp hread
      rw [Option.some_inj]
      constructor
      · rintro rfl
        exact hrated
      · intro h
        cases h with
        | bare => cases hrated
        | rated hw hn => rw [← hread, rate?_eq_some_iff.mpr (.rated hw hn)]
  | none =>
      have hclose : ∀ rest : List Char, ")".toList ++ rest = ')' :: rest := fun _ => rfl
      simp only [Option.map_eq_some_iff, literal?_eq_some_iff, hclose]
      constructor
      · rintro ⟨t, rfl, rfl⟩
        exact .bare
      · intro h
        cases h with
        | bare => exact ⟨_, rfl, rfl⟩
        | rated hw hn =>
            rw [rate?_eq_some_iff.mpr (.rated hw hn)] at hread
            cases hread

theorem isSome_decayEnd?_iff {text : List Char} :
    (decayEnd? text).isSome = true ↔ ∃ rate, DecayEnd text rate := by
  simp only [Option.isSome_iff_exists, decayEnd?_eq_some_iff]

namespace Rule

/-! ## One rule -/

theorem shape_of_pair? {beginning : String} {separator : Char} {text : List Char}
    {make : String → String → Operation α} {op : Operation α}
    (h : ((pair? beginning separator text).map fun (a, b) => make a b) = some op) :
    ∃ a b t x y, text = beginning.toList ++ a ++ separator :: b ++ ')' :: t ∧
      Operands separator a b x y ∧ op = make x y := by
  obtain ⟨_, hpair, rfl⟩ := Option.map_eq_some_iff.mp h
  obtain ⟨a, b, t, htext, ha, hseparator, hb, hbracket, rfl⟩ := pair?_eq_some_iff.mp hpair
  exact ⟨a, b, t, nameOf a, nameOf b, htext,
    ⟨ha, hseparator, hb, hbracket, gives_nameOf a, gives_nameOf b⟩, rfl⟩

theorem pair?_of_operands {beginning : String} {separator : Char} {a b : List Char} {x y : String}
    (make : String → String → Operation α) (h : Operands separator a b x y) (t : List Char) :
    ((pair? beginning separator (beginning.toList ++ a ++ separator :: b ++ ')' :: t)).map
      fun (a, b) => make a b) = some (make x y) := by
  obtain rfl := gives_iff.mp h.first_gives
  obtain rfl := gives_iff.mp h.second_gives
  exact Option.map_eq_some_iff.mpr ⟨(nameOf a, nameOf b), pair?_eq_some_iff.mpr
    ⟨a, b, t, rfl, h.first_ne_nil, h.not_mem_first, h.second_ne_nil, h.not_mem_second, rfl⟩, rfl⟩

theorem splitNames_network (body : List Char) :
    splitNames '↔' (trimmed body) = splitNames '↔' body :=
  splitNames_trimmed (by decide) body

theorem network_of_constrained {text body c : List Char} (h : Constrained text body c) :
    (network : Rule α).recognize ("∇³".toList ++ text) =
      some (.network (splitNames '↔' body) (String.ofList c)) := by
  have hopen : literal? "∇³" ("∇³".toList ++ text) = some text := rfl
  have hread : constrained? text = some (body, String.ofList c) :=
    constrained?_eq_some_iff.mpr ⟨c, h, rfl⟩
  simp only [recognize_network, network?, splitNames_network, hopen, hread, Option.bind_eq_bind,
    Option.bind_some, Option.pure_def]

theorem interaction_of_constrained {g text body c : List Char} (hg : g = [] ∨ g = ['²'])
    (h : Constrained text body c) :
    (interaction : Rule α).recognize ('∇' :: g ++ text) =
      if '↔' ∈ body then some (.interaction (splitNames '↔' body) (String.ofList c))
      else if '→' ∈ body then some (.unidirectionalFlow (splitNames '→' body) (String.ofList c))
      else none := by
  have hoptional : optional '²' (g ++ text) = text := by
    rcases hg with rfl | rfl
    · obtain ⟨f, rest, rfl | rfl, rfl, _⟩ := h <;> rfl
    · rfl
  have hread : constrained? text = some (body, String.ofList c) :=
    constrained?_eq_some_iff.mpr ⟨c, h, rfl⟩
  have hopen : literal? "∇" ('∇' :: g ++ text) = some (g ++ text) := rfl
  simp only [recognize_interaction, interaction?, hopen, hoptional, hread, Option.bind_eq_bind,
    Option.bind_some, Option.pure_def]

variable [OfScientific α]

/-- The rule that the first characters of a text leave. -/
def idOf : List Char → String
  | '⊗' :: _ => "ENTANGLE"
  | '~' :: _ => "RESONANCE"
  | '∂' :: 'p' :: _ => "PHASE"
  | '∂' :: _ => "DECAY"
  | '∮' :: '^' :: _ => "FRACTAL"
  | '∮' :: _ => "REGENERATE"
  | '∇' :: 's' :: _ => "SPATIAL"
  | '∇' :: '³' :: _ => "NETWORK"
  | '∇' :: '∇' :: _ => "SYMBIOSIS"
  | '∇' :: _ => "INTERACTION"
  | _ => "CREATE"

theorem fractal_sound {text : List Char} {op : Operation α}
    (h : fractal.recognize text = some op) : Form text op ∧ idOf text = "FRACTAL" := by
  have hopen : ∀ rest : List Char, "(".toList ++ rest = '(' :: rest := fun _ => rfl
  have hclose : ∀ rest : List Char, ")".toList ++ rest = ')' :: rest := fun _ => rfl
  simp only [recognize_fractal, fractal?, Option.bind_eq_bind, Option.bind_eq_some_iff, Prod.exists,
    literal?_eq_some_iff, upTo?_eq_some_iff, Option.pure_def, Option.some.injEq, hopen,
    hclose] at h
  obtain ⟨_, rfl, _, _, hd, _, rfl, a, _, ⟨rfl, ha, hcomma⟩, _, _, he, t, rfl, rfl⟩ := h
  obtain ⟨d, iterations, rfl, hwrites, rfl⟩ := (whole?_eq_some_iff (by decide)).mp hd
  obtain ⟨w, e, depth, rfl, hw, hwrites', rfl⟩ := whole?_blanks_eq_some_iff.mp he
  rw [← List.append_assoc]
  exact ⟨.fractalSpawn hwrites ha hcomma (gives_nameOf a) hw hwrites', rfl⟩

theorem regenerate_sound {text : List Char} {op : Operation α}
    (h : regenerate.recognize text = some op) : Form text op ∧ idOf text = "REGENERATE" := by
  have hclose : ∀ rest : List Char, ")".toList ++ rest = ')' :: rest := fun _ => rfl
  simp only [recognize_regenerate, regenerate?, Option.bind_eq_bind, Option.bind_eq_some_iff,
    Prod.exists, literal?_eq_some_iff, upTo?_eq_some_iff, Option.pure_def, Option.some.injEq,
    hclose] at h
  obtain ⟨_, rfl, a, _, ⟨rfl, ha, hcomma⟩, energy, _, hn, t, rfl, rfl⟩ := h
  obtain ⟨w, n, rfl, hw, hn⟩ := decimal?_blanks_eq_some_iff.mp hn
  rw [← List.append_assoc]
  exact ⟨.regenerate ha hcomma (gives_nameOf a) hw hn, rfl⟩

theorem network_sound {text : List Char} {op : Operation α}
    (h : network.recognize text = some op) : Form text op ∧ idOf text = "NETWORK" := by
  simp only [recognize_network, network?, Option.bind_eq_bind, Option.bind_eq_some_iff, Prod.exists,
    literal?_eq_some_iff, constrained?_eq_some_iff, Option.pure_def, Option.some.injEq] at h
  obtain ⟨rest, rfl, body, _, ⟨c, hc, rfl⟩, rfl⟩ := h
  rw [splitNames_network]
  exact ⟨.network hc (lists_splitNames '↔' body), rfl⟩

theorem interaction_sound {text : List Char} {op : Operation α}
    (h : interaction.recognize text = some op) : Form text op ∧ idOf text = "INTERACTION" := by
  have hsign : ∀ rest : List Char, "∇".toList ++ rest = '∇' :: rest := fun _ => rfl
  simp only [recognize_interaction, interaction?, Option.bind_eq_bind, Option.bind_eq_some_iff,
    Prod.exists, literal?_eq_some_iff, hsign] at h
  obtain ⟨rest, rfl, body, constraints, hlist, hop⟩ := h
  have hsquare : ∀ more, ¬ constrained? ('²' :: more) = some (body, constraints) := by
    intro more h
    obtain ⟨_, ⟨_, _, rfl | rfl, htext, _⟩, _⟩ := constrained?_eq_some_iff.mp h
    · cases htext
    · cases htext
  obtain ⟨g, text, hg, rfl, htext⟩ := (optional_iff
    (P := fun text => constrained? text = some (body, constraints)) hsquare).mp hlist
  obtain ⟨c, hc, rfl⟩ := constrained?_eq_some_iff.mp htext
  have hid : idOf ('∇' :: (g ++ text)) = "INTERACTION" := by
    obtain ⟨f, rest, hf, rfl, _⟩ := hc
    rcases hg with rfl | rfl
    · rcases hf with rfl | rfl <;> rfl
    · rfl
  refine ⟨?_, hid⟩
  split at hop
  · next hboth =>
    cases hop
    exact .interaction hg hc hboth (lists_splitNames '↔' body)
  · next hboth =>
    split at hop
    · next hforward =>
      cases hop
      exact .unidirectionalFlow hg hc hboth hforward (lists_splitNames '→' body)
    · cases hop

theorem idOf_of_word {c : Char} {rest : List Char} (h : isWordChar c = true) :
    idOf (c :: rest) = "CREATE" := by
  have hc : c ∉ ['⊗', '~', '∂', '∮', '∇'] := by
    intro hmem
    rw [isWordChar_of_sign hmem] at h
    cases h
  simp only [List.mem_cons, List.not_mem_nil, or_false, not_or] at hc
  unfold idOf
  split <;> simp_all

theorem creation_sound {text : List Char} {op : Operation α}
    (h : creation.recognize text = some op) : Form text op ∧ idOf text = "CREATE" := by
  have hequals : ∀ rest : List Char, "=".toList ++ rest = '=' :: rest := fun _ => rfl
  simp only [recognize_creation, creation?, Option.bind_eq_bind, Option.bind_eq_some_iff,
    Prod.exists, literal?_eq_some_iff, word?_eq_some_iff, Option.pure_def, Option.some.injEq,
    hequals] at h
  obtain ⟨a, _, ⟨rfl, ha, _⟩, _, hbefore, energy, t, hread, rfl⟩ := h
  obtain ⟨w, rfl, hw, _⟩ := blanks_eq_iff.mp hbefore
  obtain ⟨n, hbehind, hn, hlongest⟩ := Numeral.decimal?_eq_some_iff.mp hread
  obtain ⟨w', rfl, hw', _⟩ := blanks_eq_iff.mp hbehind
  rw [hbehind] at hlongest
  constructor
  · obtain ⟨x, rfl⟩ : ∃ x : String, x.toList = a := ⟨String.ofList a, String.toList_ofList⟩
    rw [nameOf_of_word ha, String.ofList_toList, ← List.append_assoc, ← List.append_assoc w']
    exact .creation ha hw hw' hn hlongest
  · obtain ⟨c, more, rfl⟩ := List.exists_cons_of_ne_nil ha.1
    exact idOf_of_word (ha.2 c List.mem_cons_self)

theorem decay_iff {text : List Char} {op : Operation α} :
    decay.recognize text = some op ↔
      ∃ a z rate, text = "∂decay(".toList ++ a ++ z ∧ DecayEnd z rate ∧
        Longest (DecayName (a ++ z)) a ∧
        op = .decay (nameOf a) (rate.elim defaultRate Numeral.value) := by
  have hname : ∀ args, (fun b => b ≠ [] ∧ ',' ∉ b ∧
      ∃ y, args = b ++ y ∧ (decayEnd? y).isSome = true) = DecayName args := by
    intro args
    funext b
    simp only [DecayName, isSome_decayEnd?_iff, exists_and_left]
  simp only [recognize_decay_eq_some_iff, decayEnd?_eq_some_iff, hname]

theorem decay_sound {text : List Char} {op : Operation α}
    (h : decay.recognize text = some op) : Form text op ∧ idOf text = "DECAY" := by
  obtain ⟨a, z, rate, rfl, hend, hlongest, rfl⟩ := decay_iff.mp h
  exact ⟨.decay hend hlongest (gives_nameOf a), rfl⟩

theorem decay_of_longest {a z : List Char} {x : String} {rate : Option Numeral}
    (hend : DecayEnd z rate) (hlongest : Longest (DecayName (a ++ z)) a) (hx : Gives a x) :
    (decay : Rule α).recognize ("∂decay(".toList ++ a ++ z) =
      some (.decay x (rate.elim 0.05 Numeral.value)) := by
  obtain rfl := gives_iff.mp hx
  exact decay_iff.mpr ⟨a, z, rate, rfl, hend, hlongest, rfl⟩

theorem fractal_of_writes {d a w e t : List Char} {x : String} {iterations depth : Nat}
    (hd : Numeral.Writes d iterations) (ha : a ≠ []) (hcomma : ',' ∉ a) (hx : Gives a x)
    (hw : ∀ c ∈ w, isBlank c = true) (he : Numeral.Writes e depth) :
    (fractal : Rule α).recognize
        ("∮^".toList ++ d ++ '(' :: (a ++ ',' :: (w ++ e ++ ')' :: t))) =
      some (.fractalSpawn x (Numeral.value ⟨iterations, 0⟩) (Numeral.value ⟨depth, 0⟩)) := by
  obtain rfl := gives_iff.mp hx
  have hopen : literal? "∮^" ("∮^".toList ++ d ++ '(' :: (a ++ ',' :: (w ++ e ++ ')' :: t))) =
      some (d ++ '(' :: (a ++ ',' :: (w ++ e ++ ')' :: t))) := rfl
  have hread : Numeral.whole? (d ++ '(' :: (a ++ ',' :: (w ++ e ++ ')' :: t))) =
      some (⟨iterations, 0⟩, '(' :: (a ++ ',' :: (w ++ e ++ ')' :: t))) :=
    (whole?_eq_some_iff (by decide)).mpr ⟨d, iterations, rfl, hd, rfl⟩
  have hbracket : ∀ rest, literal? "(" ('(' :: rest) = some rest := fun _ => rfl
  have hclose : ∀ rest, literal? ")" (')' :: rest) = some rest := fun _ => rfl
  simp only [recognize_fractal, fractal?, hopen, hread, hbracket, hclose, Option.bind_eq_bind,
    Option.bind_some, Option.pure_def, upTo?_eq_some_iff.mpr ⟨rfl, ha, hcomma⟩,
    whole?_blanks_eq_some_iff.mpr ⟨w, e, depth, rfl, hw, he, rfl⟩]

theorem regenerate_of_spells {a w n t : List Char} {x : String} {energy : Numeral} (ha : a ≠ [])
    (hcomma : ',' ∉ a) (hx : Gives a x) (hw : ∀ c ∈ w, isBlank c = true) (hn : energy.Spells n) :
    (regenerate : Rule α).recognize
        ("∮regenerate(".toList ++ a ++ ',' :: (w ++ n ++ ')' :: t)) =
      some (.regenerate x energy.value) := by
  obtain rfl := gives_iff.mp hx
  have hopen : literal? "∮regenerate(" ("∮regenerate(".toList ++ a ++ ',' :: (w ++ n ++ ')' :: t)) =
      some (a ++ ',' :: (w ++ n ++ ')' :: t)) := rfl
  have hclose : ∀ rest, literal? ")" (')' :: rest) = some rest := fun _ => rfl
  simp only [recognize_regenerate, regenerate?, hopen, hclose, Option.bind_eq_bind,
    Option.bind_some, Option.pure_def, upTo?_eq_some_iff.mpr ⟨rfl, ha, hcomma⟩,
    decimal?_blanks_eq_some_iff.mpr ⟨w, n, rfl, hw, hn⟩]

theorem creation_of_word {x : String} {w w' n t : List Char} {energy : Numeral}
    (hx : Run isWordChar x.toList) (hw : ∀ c ∈ w, isBlank c = true)
    (hw' : ∀ c ∈ w', isBlank c = true) (hn : energy.Spells n)
    (hlongest : Longest (fun p => p <+: n ++ t ∧ ∃ m : Numeral, m.Spells p) n) :
    (creation : Rule α).recognize (x.toList ++ w ++ '=' :: (w' ++ n ++ t)) =
      some (.creation x energy.value) := by
  have hstop : ∀ c ∈ (w ++ '=' :: (w' ++ n ++ t)).head?, isWordChar c = false := by
    cases w with
    | nil =>
        rintro c ⟨⟩
        decide +kernel
    | cons d rest =>
        rintro c ⟨⟩
        exact isWordChar_of_isBlank (hw d List.mem_cons_self)
  have hword : word? (x.toList ++ w ++ '=' :: (w' ++ n ++ t)) =
      some (x.toList, w ++ '=' :: (w' ++ n ++ t)) :=
    word?_eq_some_iff.mpr ⟨List.append_assoc _ _ _, hx, hstop⟩
  have hname : nameOf x.toList = x := gives_iff.mp (gives_of_word hx)
  have hsign : blanks (w ++ '=' :: (w' ++ n ++ t)) = '=' :: (w' ++ n ++ t) := by
    refine blanks_eq_iff.mpr ⟨w, rfl, hw, ?_⟩
    rintro c ⟨⟩
    decide
  have hopen : literal? "=" ('=' :: (w' ++ n ++ t)) = some (w' ++ n ++ t) := rfl
  have hnumber : blanks (w' ++ n ++ t) = n ++ t := by
    refine blanks_eq_iff.mpr ⟨w', List.append_assoc _ _ _, hw', fun c hc => ?_⟩
    exact Numeral.isBlank_of_isDigit (hn.head_isDigit c hc)
  have hread : Numeral.decimal? (n ++ t) = some (energy, t) :=
    Numeral.decimal?_eq_some_iff.mpr ⟨n, rfl, hn, hlongest⟩
  simp only [recognize_creation, creation?, hword, hsign, hopen, hnumber, hread,
    Option.bind_eq_bind, Option.bind_some, hname, Option.pure_def]

/-! ## All rules -/

theorem recognize_sound {rule : Rule α} (hrule : rule ∈ Rule.all) {text : List Char}
    {op : Operation α} (h : rule.recognize text = some op) :
    Form text op ∧ idOf text = rule.id := by
  simp only [Rule.all, List.mem_cons, List.not_mem_nil, or_false] at hrule
  rcases hrule with
    rfl | rfl | rfl | rfl | rfl | rfl | rfl | rfl | rfl | rfl | rfl
  · obtain ⟨a, b, t, x, y, rfl, hab, rfl⟩ := shape_of_pair? ((recognize_pair ..).symm.trans h)
    exact ⟨.entangle hab, rfl⟩
  · obtain ⟨a, b, t, x, y, rfl, hab, rfl⟩ := shape_of_pair? ((recognize_resonance _).symm.trans h)
    exact ⟨.resonance hab, rfl⟩
  · obtain ⟨a, b, t, x, y, rfl, hab, rfl⟩ := shape_of_pair? ((recognize_pair ..).symm.trans h)
    exact ⟨.phaseTransition hab, rfl⟩
  · exact fractal_sound h
  · obtain ⟨a, b, t, x, y, rfl, hab, rfl⟩ := shape_of_pair? ((recognize_pair ..).symm.trans h)
    exact ⟨.spatialFlow hab, rfl⟩
  · exact network_sound h
  · exact regenerate_sound h
  · exact decay_sound h
  · obtain ⟨a, b, t, x, y, rfl, hab, rfl⟩ := shape_of_pair? ((recognize_symbiosis _).symm.trans h)
    exact ⟨.symbiosis hab, rfl⟩
  · exact interaction_sound h
  · exact creation_sound h

theorem exists_recognize_of_form {text : List Char} {op : Operation α} (h : Form text op) :
    ∃ rule ∈ Rule.all, rule.recognize text = some op := by
  cases h with
  | entangle hab =>
      exact ⟨entangle, by simp [Rule.all],
        (recognize_pair ..).trans (pair?_of_operands .entangle hab _)⟩
  | resonance hab =>
      exact ⟨resonance, by simp [Rule.all],
        (recognize_resonance _).trans (pair?_of_operands .resonance hab _)⟩
  | phaseTransition hab =>
      exact ⟨phase, by simp [Rule.all],
        (recognize_pair ..).trans (pair?_of_operands .phaseTransition hab _)⟩
  | spatialFlow hab =>
      exact ⟨spatial, by simp [Rule.all],
        (recognize_pair ..).trans (pair?_of_operands .spatialFlow hab _)⟩
  | symbiosis hab =>
      exact ⟨symbiosis, by simp [Rule.all],
        (recognize_symbiosis _).trans (pair?_of_operands .symbiosis hab _)⟩
  | fractalSpawn hd ha hcomma hx hw he =>
      exact ⟨fractal, by simp [Rule.all], fractal_of_writes hd ha hcomma hx hw he⟩
  | regenerate ha hcomma hx hw hn =>
      exact ⟨regenerate, by simp [Rule.all], regenerate_of_spells ha hcomma hx hw hn⟩
  | decay hend hlongest hx =>
      exact ⟨decay, by simp [Rule.all], decay_of_longest hend hlongest hx⟩
  | network hc hnames =>
      refine ⟨network, by simp [Rule.all], ?_⟩
      rw [network_of_constrained hc, lists_iff.mp hnames]
  | interaction hg hc hboth hnames =>
      refine ⟨interaction, by simp [Rule.all], ?_⟩
      rw [interaction_of_constrained hg hc, if_pos hboth, lists_iff.mp hnames]
  | unidirectionalFlow hg hc hboth hforward hnames =>
      refine ⟨interaction, by simp [Rule.all], ?_⟩
      rw [interaction_of_constrained hg hc, if_neg hboth, if_pos hforward, lists_iff.mp hnames]
  | creation hx hw hw' hn hlongest =>
      exact ⟨creation, by simp [Rule.all], creation_of_word hx hw hw' hn hlongest⟩

theorem nodup_ids : ((Rule.all : List (Rule α)).map Rule.id).Nodup := by
  change ["ENTANGLE", "RESONANCE", "PHASE", "FRACTAL", "SPATIAL", "NETWORK", "REGENERATE",
    "DECAY", "SYMBIOSIS", "INTERACTION", "CREATE"].Nodup
  decide

/-- Two rules never answer on one text, so the order in which they are tried does not
matter. -/
theorem eq_of_recognize {rule rule' : Rule α} (hrule : rule ∈ Rule.all) (hrule' : rule' ∈ Rule.all)
    {text : List Char} {op op' : Operation α} (h : rule.recognize text = some op)
    (h' : rule'.recognize text = some op') : rule = rule' := by
  have hid : rule.id = rule'.id :=
    (recognize_sound hrule h).2.symm.trans (recognize_sound hrule' h').2
  exact List.inj_on_of_nodup_map nodup_ids hrule hrule' hid

theorem findSome?_eq_some_iff {text : List Char} {op : Operation α} :
    (Rule.all.findSome? fun rule => rule.recognize text) = some op ↔ Form text op := by
  constructor
  · intro h
    obtain ⟨rule, hrule, hop⟩ := List.exists_of_findSome?_eq_some h
    exact (recognize_sound hrule hop).1
  · intro h
    obtain ⟨rule, hrule, hop⟩ := exists_recognize_of_form h
    have hsome : (Rule.all.findSome? fun rule : Rule α => rule.recognize text).isSome = true :=
      List.findSome?_isSome_iff.mpr ⟨rule, hrule, by rw [hop]; rfl⟩
    obtain ⟨op', hop'⟩ := Option.isSome_iff_exists.mp hsome
    obtain ⟨rule', hrule', hread⟩ := List.exists_of_findSome?_eq_some hop'
    obtain rfl : rule = rule' := eq_of_recognize hrule hrule' hop hread
    rw [hop', ← hread, hop]

end Rule

theorem recognize_eq_iff_of_known [OfScientific α] {line : String} {op : Operation α}
    (hop : op.kind ≠ .unknown) : recognize line = op ↔ Form (trimmed line.toList) op := by
  have hrecognize : (recognize line : Operation α) =
      (Rule.all.findSome? fun rule => rule.recognize (trimmed line.toList)).getD
        (.unknown (String.ofList (trimmed line.toList))) := rfl
  rw [hrecognize, ← Rule.findSome?_eq_some_iff]
  cases Rule.all.findSome? fun rule : Rule α => rule.recognize (trimmed line.toList) with
  | none =>
      constructor
      · rintro rfl
        exact absurd rfl hop
      · intro h
        cases h
  | some found => exact (Option.some_inj).symm

/-- A line is read as the operation whose form its trimmed text has.  Without a form the
trimmed text is all that is known of it. -/
theorem recognize_eq_iff_form [OfScientific α] (line : String) (op : Operation α) :
    recognize line = op ↔
      Form (trimmed line.toList) op ∨
        op = .unknown (String.ofList (trimmed line.toList)) ∧
          ∀ other : Operation α, ¬ Form (trimmed line.toList) other := by
  have hrecognize : (recognize line : Operation α) =
      (Rule.all.findSome? fun rule => rule.recognize (trimmed line.toList)).getD
        (.unknown (String.ofList (trimmed line.toList))) := rfl
  rw [hrecognize]
  cases hfound : Rule.all.findSome? fun rule : Rule α => rule.recognize (trimmed line.toList) with
  | none =>
      have hno : ∀ other : Operation α, ¬ Form (trimmed line.toList) other := by
        intro other hother
        rw [Rule.findSome?_eq_some_iff.mpr hother] at hfound
        cases hfound
      constructor
      · rintro rfl
        exact Or.inr ⟨rfl, hno⟩
      · rintro (hform | ⟨rfl, _⟩)
        · exact absurd hform (hno op)
        · rfl
  | some found =>
      have hform : Form (trimmed line.toList) found := Rule.findSome?_eq_some_iff.mp hfound
      constructor
      · rintro rfl
        exact Or.inl hform
      · rintro (hop | ⟨_, hno⟩)
        · rw [Rule.findSome?_eq_some_iff.mpr hop] at hfound
          exact (Option.some.inj hfound).symm
        · exact absurd hform (hno found)

end FieldCalculus
