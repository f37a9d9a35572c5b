import SchemaTypes.Proofs.Printer.Properties

set_option autoImplicit false

/-! # Reading printed imports back

Where names are words and specifiers hold no quote, each piece of a printed import shows where it
ends: a name at the first character that is in no word, a specifier at its quote. Each `separates`
lemma below says so of one kind of piece, whatever is printed after it. The main statement is
`separates_import`.
-/

namespace SchemaTypes

open Text

/-- An ASCII letter or digit, an underscore or a dollar sign. -/
def isWordCharacter (c : Char) : Bool := c.isAlphanum || c == '_' || c == '$'

/-- A text that is not empty and has nothing but such characters. -/
def IsWord (s : String) : Prop := s ≠ "" ∧ Consists isWordCharacter s

instance (s : String) : Decidable (IsWord s) := inferInstanceAs (Decidable (_ ∧ _))

/-- The names of a binding are words. -/
def Binding.IsLegible (b : Binding) : Prop := IsWord b.name ∧ ∀ renamed ∈ b.renamed, IsWord renamed

/-- The names of an import are words, and its specifier has neither a double quote nor a line
break. -/
def ModuleImport.IsLegible (clause : ModuleImport) : Prop :=
  (∀ name ∈ clause.default, IsWord name) ∧ (∀ b ∈ clause.bindings, b.IsLegible) ∧
    Consists (· != '"') clause.specifier ∧ IsLine clause.specifier

instance (b : Binding) : Decidable b.IsLegible := inferInstanceAs (Decidable (_ ∧ _))

instance (clause : ModuleImport) : Decidable clause.IsLegible := inferInstanceAs (Decidable (_ ∧ _))

/-! ## Bindings -/

/-- What is printed of a new name. -/
def Binding.ending (renamed : Option String) : String := (renamed.map (" as " ++ ·)).getD ""

theorem Binding.text_eq {b : Binding} (h : b.IsLegible) : b.text = b.name ++ ending b.renamed := by
  obtain ⟨name, renamed⟩ := b
  cases renamed with
  | none => exact String.append_empty.symm
  | some renamed =>
    have hne : renamed ≠ "" := (h.2 renamed rfl).1
    rw [Binding.text]
    simp [hne, ending, String.append_assoc]

/-- What comes after a binding: another one or the closing brace. -/
def FollowsBinding (s : String) : Prop := ∃ u, s = ", " ++ u ∨ s = " \x7d" ++ u

theorem FollowsBinding.stops {s : String} (h : FollowsBinding s) : Stops isWordCharacter s := by
  obtain ⟨u, rfl | rfl⟩ := h
  · exact Stops.append (by decide) (by decide) u
  · exact Stops.append (by decide) (by decide) u

theorem FollowsBinding.ne_ending {s : String} (h : FollowsBinding s) (renamed t : String) :
    s ≠ Binding.ending (some renamed) ++ t := by
  intro heq
  obtain ⟨u, rfl | rfl⟩ := h <;> have hlist := congrArg String.toList heq
  · simp [Binding.ending] at hlist
  · simp [Binding.ending] at hlist

theorem separates_ending :
    Separates Binding.ending id (fun renamed => ∀ r ∈ renamed, IsWord r) FollowsBinding := by
  intro x y hx hy s t hs ht h
  cases x with
  | none =>
    rw [Binding.ending, Option.map_none, Option.getD_none, String.empty_append] at h
    cases y with
    | none => exact ⟨rfl, by rwa [Binding.ending, Option.map_none, Option.getD_none,
        String.empty_append] at h⟩
    | some r => exact absurd h (hs.ne_ending r t)
  | some r =>
    cases y with
    | none =>
      rw [Binding.ending, Binding.ending, Option.map_none, Option.getD_none,
        String.empty_append] at h
      exact absurd h.symm (ht.ne_ending r s)
    | some r' =>
      simp only [Binding.ending, Option.map_some, Option.getD_some, String.append_assoc,
        String.append_right_inj] at h
      obtain ⟨rfl, hend⟩ := cut_eq (hx r rfl).2 (hy r' rfl).2 hs.stops ht.stops h
      exact ⟨rfl, hend⟩

theorem stops_ending {s : String} (renamed : Option String) (hs : FollowsBinding s) :
    Stops isWordCharacter (Binding.ending renamed ++ s) := by
  cases renamed with
  | none =>
    rw [Binding.ending, Option.map_none, Option.getD_none, String.empty_append]
    exact hs.stops
  | some r =>
    rw [Binding.ending, Option.map_some, Option.getD_some, String.append_assoc]
    exact Stops.append (by decide) (by decide) _

theorem separates_binding : Separates Binding.text id Binding.IsLegible FollowsBinding := by
  intro a b ha hb s t hs ht h
  rw [Binding.text_eq ha, Binding.text_eq hb, String.append_assoc, String.append_assoc] at h
  obtain ⟨hname, hrest⟩ :=
    cut_eq ha.1.2 hb.1.2 (stops_ending a.renamed hs) (stops_ending b.renamed ht) h
  obtain ⟨hrenamed, hend⟩ := separates_ending a.renamed b.renamed ha.2 hb.2 s t hs ht hrest
  exact ⟨by cases a; cases b; simp_all, hend⟩

/-- What is printed of a binding that is not the first one. -/
def Binding.furtherText (b : Binding) : String := ", " ++ b.text

theorem bindingsText_cons (b : Binding) (rest : List Binding) :
    PrinterOptions.bindingsText (b :: rest)
      = "\x7b " ++ (b.text ++ (listing Binding.furtherText rest ++ " \x7d")) := by
  have hrest : ∀ (first : String) (rest : List Binding),
      String.intercalate ", " (first :: rest.map Binding.text)
        = first ++ listing Binding.furtherText rest := by
    intro first rest
    induction rest generalizing first with
    | nil => simp [listing]
    | cons c rest ih =>
      rw [List.map_cons, String.intercalate_cons_cons, ih, listing_cons, Binding.furtherText]
      simp only [String.append_assoc]
  rw [PrinterOptions.bindingsText, List.isEmpty_cons, if_neg (by decide), List.map_cons, hrest]
  simp only [String.append_assoc]

theorem separates_furtherText :
    Separates Binding.furtherText id Binding.IsLegible FollowsBinding := by
  intro a b ha hb s t hs ht h
  rw [Binding.furtherText, Binding.furtherText, String.append_assoc, String.append_assoc,
    String.append_right_inj] at h
  exact separates_binding a b ha hb s t hs ht h

theorem separates_bindings {b c : Binding} {bs cs : List Binding} {s t : String}
    (hb : ∀ x ∈ b :: bs, x.IsLegible) (hc : ∀ x ∈ c :: cs, x.IsLegible)
    (h : PrinterOptions.bindingsText (b :: bs) ++ s = PrinterOptions.bindingsText (c :: cs) ++ t) :
    b :: bs = c :: cs ∧ s = t := by
  have hlist : Separates (listing Binding.furtherText) (List.map id)
      (fun bindings => ∀ b ∈ bindings, b.IsLegible) (fun s => ∃ u, s = " \x7d" ++ u) := by
    refine separates_furtherText.join ?_ ?_ ?_
    · exact fun b _ s => ⟨b.text ++ s, Or.inl String.append_assoc⟩
    · rintro s ⟨u, rfl⟩
      exact ⟨u, Or.inr rfl⟩
    · rintro b _ s t ⟨u, rfl⟩ heq
      have hchars := congrArg String.toList heq
      simp [Binding.furtherText] at hchars
  rw [bindingsText_cons, bindingsText_cons] at h
  simp only [String.append_assoc, String.append_right_inj] at h
  -- with a comma in front of the first binding, too, all are printed alike
  have hcomma : listing Binding.furtherText (b :: bs) ++ (" \x7d" ++ s)
      = listing Binding.furtherText (c :: cs) ++ (" \x7d" ++ t) := by
    rw [listing_cons, listing_cons, Binding.furtherText, Binding.furtherText]
    simp only [String.append_assoc, h]
  obtain ⟨hbindings, hend⟩ := hlist _ _ hb hc _ _ ⟨s, rfl⟩ ⟨t, rfl⟩ hcomma
  rw [List.map_id, List.map_id] at hbindings
  exact ⟨hbindings, (String.append_right_inj _).1 hend⟩

/-! ## Imports -/

namespace PrinterOptions

variable (options : PrinterOptions)

/-- What is printed between the default import and the specifier. -/
def bindingsPart (clause : ModuleImport) : String :=
  (if isGiven clause.default && !clause.bindings.isEmpty then ", " else "")
    ++ bindingsText clause.bindings

theorem printImport_eq (clause : ModuleImport) :
    options.printImport clause = "import type " ++ (defaultText clause ++ (bindingsPart clause
      ++ (" from \"" ++ (clause.specifier ++ ("\"" ++ (options.terminator ++ "\n")))))) := by
  unfold printImport bindingsPart
  simp only [String.append_assoc]

theorem bindingsPart_of_nil {clause : ModuleImport} (h : clause.bindings = []) :
    bindingsPart clause = "" := by
  simp [bindingsPart, bindingsText, h]

/-- Bindings are printed with a brace, or with a comma if there is a default import before them. -/
theorem bindingsPart_of_cons {clause : ModuleImport} {b : Binding} {bs : List Binding}
    (h : clause.bindings = b :: bs) :
    bindingsPart clause
      = (if isGiven clause.default then ", " else "") ++ bindingsText (b :: bs) := by
  simp [bindingsPart, h]

theorem stops_bindingsPart (clause : ModuleImport) (s : String) :
    Stops isWordCharacter (bindingsPart clause ++ (" from \"" ++ s)) := by
  cases h : clause.bindings with
  | nil =>
    rw [bindingsPart_of_nil h, String.empty_append]
    exact Stops.append (by decide) (by decide) s
  | cons b bs =>
    rw [bindingsPart_of_cons h, bindingsText_cons, String.append_assoc, String.append_assoc]
    split
    · exact Stops.append (by decide) (by decide) _
    · rw [String.empty_append]
      exact Stops.append (by decide) (by decide) _

theorem default_eq_of_defaultText_eq {c d : ModuleImport} (hc : c.IsLegible) (hd : d.IsLegible)
    (h : defaultText c = defaultText d) : c.default = d.default := by
  rw [defaultText, defaultText] at h
  cases hc' : c.default with
  | none =>
    cases hd' : d.default with
    | none => rfl
    | some name =>
      rw [hc', hd'] at h
      exact absurd h.symm (hd.1 name hd').1
  | some name =>
    cases hd' : d.default with
    | none =>
      rw [hc', hd'] at h
      exact absurd h (hc.1 name hc').1
    | some other =>
      rw [hc', hd'] at h
      exact congrArg some h

/-- After equal default imports the bindings can be told apart from each other and from none. -/
theorem separates_bindingsPart {c d : ModuleImport} {s t : String} (hc : c.IsLegible)
    (hd : d.IsLegible) (hdefault : c.default = d.default)
    (h : bindingsPart c ++ (" from \"" ++ s) = bindingsPart d ++ (" from \"" ++ t)) :
    c.bindings = d.bindings ∧ s = t := by
  -- an import without bindings goes on with a space, where bindings have a comma or a brace
  have hmismatch : ∀ (given : Bool) (b : Binding) (bs : List Binding) (s t : String),
      " from \"" ++ s ≠ (if given then ", " else "") ++ bindingsText (b :: bs) ++ t := by
    intro given b bs s t heq
    rw [bindingsText_cons] at heq
    have hchars := congrArg String.toList heq
    cases given <;> simp at hchars
  cases hcb : c.bindings with
  | nil =>
    rw [bindingsPart_of_nil hcb, String.empty_append] at h
    cases hdb : d.bindings with
    | nil =>
      rw [bindingsPart_of_nil hdb, String.empty_append] at h
      exact ⟨rfl, (String.append_right_inj _).1 h⟩
    | cons b bs =>
      rw [bindingsPart_of_cons hdb] at h
      exact absurd h (hmismatch _ b bs _ _)
  | cons b bs =>
    rw [bindingsPart_of_cons hcb] at h
    cases hdb : d.bindings with
    | nil =>
      rw [bindingsPart_of_nil hdb, String.empty_append] at h
      exact absurd h.symm (hmismatch _ b bs _ _)
    | cons b' bs' =>
      rw [bindingsPart_of_cons hdb, hdefault, String.append_assoc, String.append_assoc,
        String.append_right_inj] at h
      obtain ⟨hbindings, hend⟩ := separates_bindings (hcb ▸ hc.2.1) (hdb ▸ hd.2.1) h
      exact ⟨hbindings, (String.append_right_inj _).1 hend⟩

theorem consists_defaultText {clause : ModuleImport} (h : clause.IsLegible) :
    Consists isWordCharacter (defaultText clause) := by
  rw [defaultText]
  cases hdefault : clause.default with
  | none => exact fun c hc => by cases hc
  | some name => exact (h.1 name hdefault).2

theorem separates_import :
    Separates options.printImport id ModuleImport.IsLegible (fun _ => True) := by
  intro c d hc hd s t _ _ h
  rw [printImport_eq, printImport_eq] at h
  simp only [String.append_assoc, String.append_right_inj] at h
  obtain ⟨hdefaults, hbindings⟩ := cut_eq (consists_defaultText hc) (consists_defaultText hd)
    (stops_bindingsPart c _) (stops_bindingsPart d _) h
  have hdefault := default_eq_of_defaultText_eq hc hd hdefaults
  obtain ⟨hbindings, hspecifiers⟩ := separates_bindingsPart hc hd hdefault hbindings
  obtain ⟨hspecifier, hend⟩ := cut_eq hc.2.2.1 hd.2.2.1
    (Stops.append (by decide) (by decide) _) (Stops.append (by decide) (by decide) _) hspecifiers
  simp only [String.append_right_inj] at hend
  obtain ⟨specifier, default, bindings⟩ := c
  obtain ⟨specifier', default', bindings'⟩ := d
  cases hdefault
  cases hbindings
  cases hspecifier
  exact ⟨rfl, hend⟩

end PrinterOptions

end SchemaTypes
