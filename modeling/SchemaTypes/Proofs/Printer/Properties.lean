import SchemaTypes.Proofs.Printer.Basic

set_option autoImplicit false

/-! # Telling properties apart

A property is printed on a line of its own, its name first and its type up to the end of the line.
If types stay on their lines and names show where they end, then the lines show the names and the
types, whatever is printed after them. The main statement is `separates_property`.
-/

namespace SchemaTypes

open Text

/-- The text stays on its line. -/
def IsLine (s : String) : Prop := Consists (· != '\n') s

instance (s : String) : Decidable (IsLine s) := inferInstanceAs (Decidable (Consists _ _))

/-- The name of a property is one of a kind, and its type stays on its line. -/
def Property.IsLegible (named : String → Prop) (property : Property) : Prop :=
  named property.name ∧ IsLine property.type

instance (named : String → Prop) [DecidablePred named] (property : Property) :
    Decidable (property.IsLegible named) :=
  inferInstanceAs (Decidable (_ ∧ _))

/-- A property but for its comment. -/
def Property.withoutComment (property : Property) : Property := { property with comment := none }

/-- Names of a kind show where they end if a colon and a space follow. -/
def EndsAtColon (named : String → Prop) : Prop :=
  Separates id id named fun s => ∃ u, s = ": " ++ u

/-- The text has no colon with a space after it. -/
def LacksColon (s : String) : Prop := ¬ [':', ' '] <:+: s.toList

instance (s : String) : Decidable (LacksColon s) := inferInstanceAs (Decidable (¬ _))

theorem endsAtColon_of_consists {p : Char → Bool} (hcolon : p ':' = false) :
    EndsAtColon (Consists p) := by
  rintro a b ha hb _ _ ⟨s, rfl⟩ ⟨t, rfl⟩ h
  have hstops : ∀ u, Stops p (": " ++ u) := by
    refine fun u => Stops.append (by decide) ?_ u
    intro c hc
    cases hc
    exact hcolon
  exact cut_eq ha hb (hstops s) (hstops t) h

theorem EndsAtColon.mono {named named' : String → Prop} (h : EndsAtColon named)
    (himp : ∀ s, named' s → named s) : EndsAtColon named' :=
  fun a b ha hb => h a b (himp a ha) (himp b hb)

theorem endsAtColon_lacksColon : EndsAtColon LacksColon := by
  -- what the longer one of two names has beyond the shorter one would start with a colon and a
  -- space
  have key : ∀ {long : String} {x short s t : List Char}, LacksColon long →
      long.toList = short ++ x → ':' :: ' ' :: s = x ++ ':' :: ' ' :: t → x = [] := by
    intro long x short s t hlacks hx h
    match x with
    | [] => rfl
    | [c] => simp at h
    | c :: d :: rest =>
      simp only [List.cons_append, List.cons.injEq] at h
      obtain ⟨rfl, rfl, _⟩ := h
      exact absurd ⟨short, rest, by simp [hx]⟩ hlacks
  rintro a b ha hb _ _ ⟨s, rfl⟩ ⟨t, rfl⟩ h
  have hlist := congrArg String.toList h
  simp only [id, String.toList_append] at hlist
  have heq : a = b := by
    rw [← String.toList_inj]
    rcases List.append_eq_append_iff.1 hlist with ⟨x, hx, hrest⟩ | ⟨x, hx, hrest⟩
    · have hnil : x = [] := key hb hx hrest
      rw [hx, hnil, List.append_nil]
    · have hnil : x = [] := key ha hx hrest
      rw [hx, hnil, List.append_nil]
  subst heq
  exact ⟨rfl, (String.append_right_inj a).1 h⟩

namespace PrinterOptions

variable (options : PrinterOptions)

/-- What ends a line is told apart from the line. -/
theorem separates_line {a b s t : String} (ha : IsLine a) (hb : IsLine b)
    (h : a ++ (options.terminator ++ ("\n" ++ s)) = b ++ (options.terminator ++ ("\n" ++ t))) :
    a = b ∧ s = t := by
  have hterminator : IsLine options.terminator := by
    unfold terminator
    cases options.semicolons <;> decide
  have hstops : ∀ u, Stops (· != '\n') ("\n" ++ u) := fun u =>
    Stops.append (by decide) (by decide) u
  rw [← @String.append_assoc a, ← @String.append_assoc b] at h
  obtain ⟨hline, hend⟩ := cut_eq (ha.append hterminator) (hb.append hterminator) (hstops s)
    (hstops t) h
  exact ⟨(String.append_left_inj _).1 hline, (String.append_right_inj _).1 hend⟩

/-- The line of a property shows its name and its type. -/
theorem separates_property {named : String → Prop} (hnamed : EndsAtColon named) :
    Separates options.printProperty Property.withoutComment (Property.IsLegible named)
      (fun _ => True) := by
  intro x y hx hy s t _ _ h
  simp only [printProperty, String.append_assoc, String.append_right_inj] at h
  obtain ⟨hname, htype⟩ := hnamed _ _ hx.1 hy.1 _ _ ⟨_, rfl⟩ ⟨_, rfl⟩ h
  obtain ⟨htype, hend⟩ := options.separates_line hx.2 hy.2 ((String.append_right_inj _).1 htype)
  have hname : x.name = y.name := hname
  exact ⟨by rw [Property.withoutComment, Property.withoutComment, hname, htype], hend⟩

end PrinterOptions

end SchemaTypes
