import FieldCalculus.Proofs.State.Snapshot
import FieldCalculus.Report
/-!
# What a report shows of a system state

The lines of a report are told apart by the labels they begin with.  A name can hold any text,
so it is only the beginning of a line that says what the line is about.
-/

namespace FieldCalculus

variable {α : Type}

namespace Report

/-! ## Labels -/

/-- Whether a line begins with a label. -/
def labelled (label line : String) : Bool :=
  label.toList <+: line.toList

/-- The label of the line that begins a block. -/
def fieldLabel : String := "  Field: "

/-- The label of the depth of a spawn. -/
def depthLabel : String := "    Fractal Depth:    "

/-- The label of the partner of a field. -/
def partnerLabel : String := "    Entangled with:   "

variable {label : String} {starts given : List String}

/-- Every line begins with one of some labels. -/
def BegunBy (starts given : List String) : Prop :=
  ∀ line ∈ given, ∃ start ∈ starts, ∃ text, line = start ++ text

theorem BegunBy.zipWith (starts texts : List String) :
    BegunBy starts (List.zipWith (· ++ ·) starts texts) := by
  intro line hline
  rw [← List.map_uncurry_zip_eq_zipWith] at hline
  obtain ⟨⟨start, text⟩, hpair, rfl⟩ := List.mem_map.mp hline
  exact ⟨start, (List.of_mem_zip hpair).1, text, rfl⟩

theorem labelled_append_self (label text : String) : labelled label (label ++ text) = true := by
  rw [labelled, decide_eq_true_iff, String.toList_append]
  exact List.prefix_append _ _

theorem labelled_append_eq_false {start : String} (h : labelled label start = false)
    (h' : labelled start label = false) (text : String) :
    labelled label (start ++ text) = false := by
  simp only [labelled, decide_eq_false_iff_not, String.toList_append] at *
  intro hprefix
  -- of two beginnings of one line the shorter one begins the longer one
  rcases List.prefix_or_prefix_of_prefix hprefix (List.prefix_append _ _) with hshort | hlong
  · exact h hshort
  · exact h' hlong

theorem filter_labelled_self (h : BegunBy [label] given) :
    given.filter (labelled label) = given := by
  rw [List.filter_eq_self]
  intro line hline
  obtain ⟨start, hstart, text, rfl⟩ := h line hline
  rw [List.mem_singleton.mp hstart]
  exact labelled_append_self label text

/-- Where no other label begins like this one, and it like none of them, no line has it. -/
theorem filter_labelled_other (h : BegunBy starts given)
    (hapart : ∀ start ∈ starts, labelled label start = false ∧ labelled start label = false) :
    given.filter (labelled label) = [] := by
  rw [List.filter_eq_nil_iff]
  intro line hline
  obtain ⟨start, hstart, text, rfl⟩ := h line hline
  obtain ⟨hlabel, hlabel'⟩ := hapart start hstart
  rw [labelled_append_eq_false hlabel hlabel' text]
  decide

/-- A numeral does not begin with a space. -/
theorem labelled_numeral_eq_false (n : ℕ) (text : String) :
    labelled fieldLabel (toString n ++ text) = false := by
  obtain ⟨digit, digits, hdigits⟩ :=
    List.exists_cons_of_ne_nil (Nat.toDigits_ne_nil (n := n) (b := 10))
  have hdigit : digit.isDigit = true :=
    Nat.isDigit_of_mem_toDigits (b := 10) (by decide) (by decide) (hdigits ▸ List.mem_cons_self)
  rw [labelled, decide_eq_false_iff_not, String.toList_append, KeyOrder.toList_toString, hdigits]
  intro hprefix
  obtain rfl : ' ' = digit := (List.cons_prefix_cons.mp hprefix).1
  exact absurd hdigit (by decide)

/-! ## Blocks -/

/-- The labels of the attributes that every block gives. -/
def attributeLabels : List String :=
  ["    Energy:           ", "    Phase State:      ", "    Frequency:        ",
   "    Capacity:         ", "    Entropy:          ", "    Coherence:        ",
   "    Phase Angle:      ", "    Age:              "]

theorem partnerLine_eq (s : Snapshot α) :
    partnerLine s = ((s.partner.filter (· ≠ "")).map (partnerLabel ++ ·)).toList := by
  unfold partnerLine
  cases s.partner with
  | none => rfl
  | some partner =>
      by_cases hempty : partner = ""
      · simp [hempty]
      · simp [hempty, partnerLabel, Option.filter]

theorem begunBy_partnerLine (s : Snapshot α) : BegunBy [partnerLabel] (partnerLine s) := by
  intro line hline
  rw [partnerLine_eq, Option.mem_toList] at hline
  obtain ⟨partner, -, rfl⟩ := Option.map_eq_some_iff.mp hline
  exact ⟨partnerLabel, List.mem_singleton_self _, partner, rfl⟩

variable [Scalar α]

theorem begunBy_depthLine (s : Snapshot α) : BegunBy [depthLabel] (depthLine s) := by
  intro line hline
  unfold depthLine at hline
  split at hline
  · exact ⟨depthLabel, List.mem_singleton_self _, _, List.mem_singleton.mp hline⟩
  · cases hline

/-- The attributes that every block gives. -/
def attributeTexts (s : Snapshot α) : List String :=
  [Scalar.fixed 4 s.energy ++ " J", s.phase.name, Scalar.fixed 2 s.frequency ++ " Hz",
   Scalar.fixed 4 s.capacity, Scalar.fixed 4 s.entropy, Scalar.fixed 4 s.coherence,
   Scalar.fixed 4 s.angle ++ " rad", Scalar.text s.age ++ " cycles"]

/-- The lines about one entry: an empty one, its name, its attributes, its depth if it is a
spawn, and its partner if that has a name. -/
structure IsBlock (entry : String × Snapshot α) (block : List String) : Prop where
  attributes : "" :: (fieldLabel ++ entry.1) ::
    List.zipWith (· ++ ·) attributeLabels (attributeTexts entry.2) <+: block
  heading : block.filter (labelled fieldLabel) = [fieldLabel ++ entry.1]
  depth : block.filter (labelled depthLabel) =
    if 0.0 < entry.2.fractalDepth then [depthLabel ++ Scalar.text entry.2.fractalDepth] else []
  partner : block.filter (labelled partnerLabel) =
    ((entry.2.partner.filter (· ≠ "")).map (partnerLabel ++ ·)).toList

theorem block_eq (name : String) (s : Snapshot α) :
    block name s = ["", fieldLabel ++ name] ++
      List.zipWith (· ++ ·) attributeLabels (attributeTexts s) ++ depthLine s ++ partnerLine s := by
  simp only [block, amount, attributeLabels, attributeTexts, fieldLabel, String.append_assoc,
    List.zipWith, List.cons_append, List.nil_append]

theorem filter_block (name : String) (s : Snapshot α) (h : labelled label "" = false) :
    (block name s).filter (labelled label) =
      [fieldLabel ++ name].filter (labelled label) ++
      (List.zipWith (· ++ ·) attributeLabels (attributeTexts s)).filter (labelled label) ++
      (depthLine s).filter (labelled label) ++ (partnerLine s).filter (labelled label) := by
  rw [block_eq, List.filter_append, List.filter_append, List.filter_append,
    List.filter_cons_of_neg (by simp [h])]

theorem isBlock_block (name : String) (s : Snapshot α) : IsBlock (name, s) (block name s) := by
  have hname : BegunBy [fieldLabel] [fieldLabel ++ name] := fun line hline =>
    ⟨fieldLabel, List.mem_singleton_self _, name, List.mem_singleton.mp hline⟩
  have hattributes := BegunBy.zipWith attributeLabels (attributeTexts s)
  have hdepth := begunBy_depthLine s
  have hpartner := begunBy_partnerLine s
  constructor
  case attributes =>
    rw [block_eq, List.append_assoc]
    exact List.prefix_append _ _
  case heading =>
    rw [filter_block _ _ (by decide), filter_labelled_self hname,
      filter_labelled_other hattributes (by decide), filter_labelled_other hdepth (by decide),
      filter_labelled_other hpartner (by decide)]
    rfl
  case depth =>
    rw [filter_block _ _ (by decide), filter_labelled_other hname (by decide),
      filter_labelled_other hattributes (by decide), filter_labelled_self hdepth,
      filter_labelled_other hpartner (by decide), List.append_nil]
    rfl
  case partner =>
    rw [filter_block _ _ (by decide), filter_labelled_other hname (by decide),
      filter_labelled_other hattributes (by decide), filter_labelled_other hdepth (by decide),
      filter_labelled_self hpartner, partnerLine_eq]
    rfl

/-! ## The whole report -/

/-- Whether a report gives the number of fields instead of their blocks. -/
def Summary (s : SystemState α) (showAll : Bool) : Prop :=
  showAll = false ∧ 10 < s.fields.length

/-- The lines of a report: its head, the blocks of the entries in order or else their number, and
the closing rule. -/
structure Shows (s : SystemState α) (showAll : Bool) (report : List String) : Prop where
  blocks : ¬ Summary s showAll → ∃ blocks, List.Forall₂ IsBlock s.fields blocks ∧
    report = head s ++ ["", "Fields:", thinRule] ++ blocks.flatten ++ [rule]
  headings : ¬ Summary s showAll →
    report.filter (labelled fieldLabel) = s.fields.map (fieldLabel ++ ·.1)
  count : Summary s showAll →
    report = head s ++
      ["", toString s.fields.length ++ " fields in system (showing summary only)"] ++ [rule]
  withoutHeadings : Summary s showAll → report.filter (labelled fieldLabel) = []

theorem filter_head (s : SystemState α) : (head s).filter (labelled fieldLabel) = [] := by
  have hhead : head s = [rule, "SYSTEM STATE", rule] ++ List.zipWith (· ++ ·)
      ["Total System Energy:   ", "Total System Entropy:  ", "Average Capacity:      ",
       "Average Coherence:     ", "Energy Budget:         "]
      [amount s.totalEnergy ++ " J", amount s.totalEntropy, amount s.averageCapacity,
       amount s.averageCoherence, amount s.budgetRemaining ++ " J"] := by
    simp only [head, String.append_assoc, List.zipWith, List.cons_append, List.nil_append]
  have htitle : [rule, "SYSTEM STATE", rule].filter (labelled fieldLabel) = [] := by decide
  rw [hhead, List.filter_append, htitle, filter_labelled_other (.zipWith _ _) (by decide)]
  rfl

theorem filter_blocks (fields : List (String × Snapshot α)) :
    (fields.flatMap fun (name, s) => block name s).filter (labelled fieldLabel) =
      fields.map (fieldLabel ++ ·.1) := by
  induction fields with
  | nil => rfl
  | cons entry rest ih =>
      obtain ⟨name, s⟩ := entry
      rw [List.flatMap_cons, List.filter_append, (isBlock_block name s).heading, ih]
      rfl

theorem body_of_not_summary {s : SystemState α} {showAll : Bool} (h : ¬ Summary s showAll) :
    body s showAll =
      ["", "Fields:", thinRule] ++ s.fields.flatMap fun (name, field) => block name field := by
  have hshown : (showAll || s.fields.length ≤ summaryThreshold) = true := by
    cases showAll with
    | true => rfl
    | false => exact decide_eq_true (not_lt.mp fun hmany => h ⟨rfl, hmany⟩)
  rw [body, if_pos hshown]

theorem body_of_summary {s : SystemState α} {showAll : Bool} (h : Summary s showAll) :
    body s showAll =
      ["", toString s.fields.length ++ " fields in system (showing summary only)"] := by
  obtain ⟨rfl, hmany⟩ := h
  have hhidden : ¬ (false || s.fields.length ≤ summaryThreshold) = true := fun hfew =>
    absurd (of_decide_eq_true hfew) (not_le.mpr hmany)
  rw [body, if_neg hhidden]

theorem shows_lines (s : SystemState α) (showAll : Bool) : Shows s showAll (lines s showAll) := by
  have hrule : [rule].filter (labelled fieldLabel) = [] := by decide
  have hfilter : (lines s showAll).filter (labelled fieldLabel) =
      (body s showAll).filter (labelled fieldLabel) := by
    rw [lines, List.filter_append, List.filter_append, filter_head, hrule, List.nil_append,
      List.append_nil]
  constructor
  case blocks =>
    intro h
    refine ⟨s.fields.map fun (name, field) => block name field, ?_, ?_⟩
    · rw [List.forall₂_map_right_iff, List.forall₂_same]
      exact fun (name, field) _ => isBlock_block name field
    · rw [lines, body_of_not_summary h, List.flatMap_def, ← List.append_assoc]
  case headings =>
    intro h
    have hfields : ["", "Fields:", thinRule].filter (labelled fieldLabel) = [] := by decide
    rw [hfilter, body_of_not_summary h, List.filter_append, hfields, filter_blocks,
      List.nil_append]
  case count =>
    intro h
    rw [lines, body_of_summary h]
  case withoutHeadings =>
    intro h
    have hcount := labelled_numeral_eq_false s.fields.length
      " fields in system (showing summary only)"
    rw [hfilter, body_of_summary h, List.filter_cons_of_neg (by decide),
      List.filter_cons_of_neg (Bool.not_eq_true _ ▸ hcount), List.filter_nil]

end Report

/-- A system state has one entry for every registered field, which shows all its attributes, and
lists the entries in key order.  In exact arithmetic its totals and means are those of its
entries.  Its report has a block for every entry in this order, or their number where there are
more than ten and not all are wanted. -/
theorem state_and_report_complete :
    (∀ {α : Type} [Scalar α] (r : Registry α) (budget : Budget α),
      let s := SystemState.ofRegistry r budget
      KeyOrder.Lists Prod.fst (r.fields.map EnergyField.entry) s.fields ∧
      (∀ x f, r.get? x = some f →
        ∃ snapshot, s.fields.filter (·.1 = x) = [(x, snapshot)] ∧ snapshot.Shows f) ∧
      (∀ x, r.get? x = none → s.fields.filter (·.1 = x) = []) ∧
      s.fields.length = r.size ∧
      ∀ showAll, ∃ report, Report.text s showAll = "\n".intercalate report ∧
        Report.Shows s showAll report) ∧
    ∀ {α : Type} [ExactScalar α] (r : Registry α) (budget : Budget α),
      (SystemState.ofRegistry r budget).Summarises := by
  refine ⟨?_, SystemState.summarises_ofRegistry⟩
  intro α _ r budget s
  have hfilter := SystemState.filter_fields_ofRegistry r budget
  refine ⟨SystemState.lists_fields_ofRegistry r budget, ?_, ?_,
    SystemState.length_fields_ofRegistry r budget, ?_⟩
  · intro x f hf
    obtain rfl : f.name = x := Registry.name_of_get? hf
    exact ⟨f.snapshot, by rw [hfilter, hf]; rfl, f.snapshot_shows⟩
  · intro x hx
    rw [hfilter, hx]
    rfl
  · intro showAll
    exact ⟨Report.lines s showAll, rfl, Report.shows_lines s showAll⟩

end FieldCalculus
