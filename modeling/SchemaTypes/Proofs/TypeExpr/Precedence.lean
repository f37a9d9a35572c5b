import SchemaTypes.Proofs.TypeExpr.Reading

set_option autoImplicit false

/-! # Unions within intersections

No parentheses are written, so a union within an intersection falls apart: its first member goes to
what stands before it, its last one to what stands behind it, and the whole has the text of a union.
`a | b` and `c` make `a | b & c`, which is `a` or else `b` and `c`.

What is written for legible types with `&` between them is the text of a legible type again, in
which the last member of a union and the first one of the next union come together
(`IsLegible.exists_glue`). The main statement is `text_intersection_of_union`: a union of two
members falls apart wherever it stands in an intersection, and an intersection without unions is
never mistaken for a union.
-/

namespace SchemaTypes.TypeExpr

open Text

/-- The primitives in a type are names of letters and digits. -/
def HasPlainNames (t : TypeExpr) : Prop :=
  ∀ name, Occurs (.primitive name) t → name ≠ "" ∧ Consists Char.isAlphanum name

/-! ## Joining texts -/

/-- Texts with separators around one of them. -/
theorem intercalate_append_cons (s x : String) (before after : List String) :
    String.intercalate s (before ++ x :: after)
      = listing (· ++ s) before ++ (x ++ listing (s ++ ·) after) := by
  have hafter : ∀ x, String.intercalate s (x :: after) = x ++ listing (s ++ ·) after := by
    induction after with
    | nil => intro x; simp [listing]
    | cons a after ih =>
      intro x
      rw [String.intercalate_cons_cons, ih, listing_cons]
      simp only [String.append_assoc]
  induction before with
  | nil => simpa [listing] using hafter x
  | cons b before ih =>
    have hne : before ++ x :: after ≠ [] := by simp
    rw [List.cons_append, String.intercalate_cons_of_ne_nil hne, ih, listing_cons]
    simp only [String.append_assoc]

theorem intercalate_cons (s x : String) (after : List String) :
    String.intercalate s (x :: after) = x ++ listing (s ++ ·) after := by
  simpa [listing] using intercalate_append_cons s x [] after

theorem intercalate_concat (s x : String) (before : List String) :
    String.intercalate s (before ++ [x]) = listing (· ++ s) before ++ x := by
  simpa [listing] using intercalate_append_cons s x before []

/-- Texts between other texts, with another separator between them, fall apart: the first one goes
to what stands before and the last one to what stands behind. -/
theorem intercalate_regroup (s o first last : String) (before middle after : List String) :
    String.intercalate s (before ++ String.intercalate o (first :: middle ++ [last]) :: after)
      = String.intercalate o (String.intercalate s (before ++ [first]) :: middle
          ++ [String.intercalate s (last :: after)]) := by
  rw [intercalate_concat s, intercalate_cons s, intercalate_append_cons s,
    intercalate_append_cons o, intercalate_append_cons o, listing_cons, listing_cons]
  simp [listing, String.append_assoc]

/-- Of two lists of texts with another separator between them, the last of the one and the first of
the other come together. -/
theorem intercalate_glue (s o last first : String) (before after : List String) :
    String.intercalate s (before ++ (last ++ o ++ first) :: after)
      = String.intercalate s (before ++ [last]) ++ o ++ String.intercalate s (first :: after) := by
  rw [intercalate_append_cons, intercalate_concat, intercalate_cons]
  simp only [String.append_assoc]

/-! ## Compounds -/

/-- The members of the union that an intersection with a union is read as. A single member is
wrapped to keep it one member. -/
def regroup (before : List TypeExpr) (first : TypeExpr) (middle : List TypeExpr) (last : TypeExpr)
    (after : List TypeExpr) : List TypeExpr :=
  intersection (before ++ [union [first]]) :: middle.map (fun m => intersection [m])
    ++ [intersection (union [last] :: after)]

section

variable {before after middle : List TypeExpr} {first last : TypeExpr}

theorem level_of_mem_regroup {t : TypeExpr} (ht : t ∈ regroup before first middle last after) :
    t.level = Operator.intersection.level := by
  simp only [regroup, List.mem_append, List.mem_cons, List.mem_map, List.not_mem_nil,
    or_false] at ht
  rcases ht with (rfl | ⟨m, _, rfl⟩) | rfl <;> rfl

theorem flatMap_regroup : (regroup before first middle last after).flatMap (membersFor .union)
    = regroup before first middle last after := by
  refine flatMap_membersFor_of_level_ne ?_
  intro t ht
  rw [level_of_mem_regroup ht]
  decide

/-- An intersection with a union among its members has the text of the regrouped union. -/
theorem text_regroup :
    (union (regroup before first middle last after)).text
      = (intersection (before ++ .compound .union (first :: middle ++ [last]) :: after)).text := by
  have hunion : ∀ members, membersFor .intersection (.compound .union members)
      = [.compound .union members] :=
    fun _ => rfl
  have hbefore : (intersection (before ++ [union [first]])).text
      = String.intercalate " & "
        ((before.flatMap (membersFor .intersection)).map text ++ [first.text]) := by
    rw [intersection, text_join, List.flatMap_append, List.flatMap_singleton, union, join, hunion,
      ← join, List.map_append, List.map_singleton, text_join_singleton]
    rfl
  have hafter : (intersection (union [last] :: after)).text
      = String.intercalate " & "
        (last.text :: (after.flatMap (membersFor .intersection)).map text) := by
    rw [intersection, text_join, List.flatMap_cons, union, join, hunion, ← join,
      List.singleton_append, List.map_cons, text_join_singleton]
    rfl
  have hmiddle : (middle.map fun m => intersection [m]).map text = middle.map text := by
    rw [List.map_map]
    exact List.map_congr_left fun m _ => text_join_singleton .intersection m
  calc (union (regroup before first middle last after)).text
      = String.intercalate " | " ((regroup before first middle last after).map text) := by
        rw [union, text_join, flatMap_regroup]
        rfl
    _ = String.intercalate " | "
          (String.intercalate " & "
              ((before.flatMap (membersFor .intersection)).map text ++ [first.text])
            :: middle.map text
            ++ [String.intercalate " & "
              (last.text :: (after.flatMap (membersFor .intersection)).map text)]) := by
        rw [regroup, List.map_append, List.map_cons, hbefore, hmiddle, List.map_singleton, hafter]
    _ = String.intercalate " & "
          ((before.flatMap (membersFor .intersection)).map text
            ++ String.intercalate " | " (first.text :: middle.map text ++ [last.text])
            :: (after.flatMap (membersFor .intersection)).map text) :=
        (intercalate_regroup _ _ _ _ _ _ _).symm
    _ = (intersection (before ++ .compound .union (first :: middle ++ [last]) :: after)).text := by
        rw [intersection, text_join, List.flatMap_append, List.flatMap_cons, hunion,
          List.singleton_append, List.map_append, List.map_cons, text, texts_eq_map,
          List.map_append, List.map_cons, List.map_singleton]
        rfl

end

/-! ## Names in compounds -/

theorem HasPlainNames.of_part {t part : TypeExpr} (h : t.HasPlainNames) (hpart : part ∈ t.parts) :
    part.HasPlainNames := fun name hname => h name (.inside hpart hname)

theorem HasPlainNames.of_mem_membersFor {operator : Operator} {t m : TypeExpr} (h : t.HasPlainNames)
    (hm : m ∈ membersFor operator t) : m.HasPlainNames := by
  by_cases hlevel : t.level = operator.level
  · obtain ⟨members, rfl⟩ := exists_members_of_level_eq hlevel
    rw [membersFor, if_pos rfl] at hm
    exact h.of_part hm
  · rw [membersFor_of_level_ne hlevel, List.mem_singleton] at hm
    exact hm ▸ h

/-- A compound has no other names than its members. -/
theorem HasPlainNames.join {ts : List TypeExpr} (h : ∀ t ∈ ts, t.HasPlainNames)
    (operator : Operator) :
    (join operator ts).HasPlainNames := by
  intro name hname
  cases hname with
  | inside hpart hoccurs =>
    obtain ⟨t, ht, hmem⟩ := List.mem_flatMap.1 hpart
    exact (h t ht).of_mem_membersFor hmem name hoccurs

theorem HasPlainNames.primitive {name : String} (hne : name ≠ "")
    (hname : Consists Char.isAlphanum name) : (primitive name).HasPlainNames := by
  intro other hother
  cases hother with
  | whole => exact ⟨hne, hname⟩
  | inside hpart _ => cases hpart

theorem hasPlainNames_regroup {before after middle : List TypeExpr} {first last : TypeExpr}
    (hbefore : ∀ t ∈ before, t.HasPlainNames)
    (hmembers : ∀ t ∈ first :: middle ++ [last], t.HasPlainNames)
    (hafter : ∀ t ∈ after, t.HasPlainNames) :
    ∀ t ∈ regroup before first middle last after, t.HasPlainNames := by
  rw [List.forall_mem_append, List.forall_mem_cons, List.forall_mem_singleton] at hmembers
  obtain ⟨⟨hfirst, hmiddle⟩, hlast⟩ := hmembers
  rw [regroup, List.forall_mem_append, List.forall_mem_cons, List.forall_mem_map,
    List.forall_mem_singleton]
  refine ⟨⟨.join ?_ _, ?_⟩, .join ?_ _⟩
  · rw [List.forall_mem_append, List.forall_mem_singleton]
    exact ⟨hbefore, .join (List.forall_mem_singleton.2 hfirst) _⟩
  · exact fun m hm => .join (List.forall_mem_singleton.2 (hmiddle m hm)) _
  · exact List.forall_mem_cons.2 ⟨.join (List.forall_mem_singleton.2 hlast) _, hafter⟩

theorem exists_first_middle_last {α : Type} {l : List α} (h : 2 ≤ l.length) :
    ∃ first middle last, l = first :: middle ++ [last] := by
  match l, h with
  | first :: second :: rest, _ =>
    refine ⟨first, (second :: rest).dropLast, (second :: rest).getLast (by simp), ?_⟩
    rw [List.cons_append, List.dropLast_append_getLast]

/-! ## Legible unions -/

theorem text_ofOperands (operator : Operator) (ts : List TypeExpr) :
    (ofOperands operator ts).text = String.intercalate operator.separator (ts.map text) := by
  match ts with
  | [] => rfl
  | [t] => exact String.intercalate_singleton.symm
  | _ :: _ :: _ => rw [ofOperands_eq operator (by simp), text, texts_eq_map]

theorem IsLegible.ofOperands {operator : Operator} {ts : List TypeExpr} (hne : ts ≠ [])
    (h : ∀ t ∈ ts, t.IsLegible) (hlevel : ∀ t ∈ ts, t.level < operator.level) :
    (TypeExpr.ofOperands operator ts).IsLegible ∧
      ((TypeExpr.ofOperands operator ts).level = operator.level ↔ 2 ≤ ts.length) := by
  match ts with
  | [] => exact absurd rfl hne
  | [t] =>
    have hlt : t.level < operator.level := hlevel t (List.mem_singleton_self t)
    exact ⟨h t (List.mem_singleton_self t), iff_of_false (Nat.ne_of_lt hlt) (Nat.lt_irrefl 1)⟩
  | first :: second :: rest =>
    have hcount : 2 ≤ (first :: second :: rest).length := by simp
    rw [ofOperands_eq operator hcount]
    exact ⟨.compound hcount hlevel h, iff_of_true rfl hcount⟩

section Pair

variable {t u : TypeExpr} (ht : t.IsLegible) (hu : u.IsLegible)
include ht hu

theorem text_intersection_pair : (intersection [t, u]).text = t.text ++ " & " ++ u.text := by
  have hmembers : ([t, u].flatMap (membersFor .intersection)).map text
      = (membersFor .intersection t).map text ++ (membersFor .intersection u).map text := by
    simp
  rw [intersection, text_join, hmembers, String.intercalate_append_of_ne_nil
    (by simpa using ht.membersFor_ne_nil _) (by simpa using hu.membersFor_ne_nil _),
    ← text_eq_intercalate, ← text_eq_intercalate]
  rfl

/-- Types that are no unions make a legible intersection. -/
theorem IsLegible.intersection_pair (htlevel : t.level < 2) (hulevel : u.level < 2) :
    (TypeExpr.intersection [t, u]).IsLegible := by
  have hcount : 2 ≤ ([t, u].flatMap (membersFor .intersection)).length := by
    have htpos := List.length_pos_iff.2 (ht.membersFor_ne_nil .intersection)
    have hupos := List.length_pos_iff.2 (hu.membersFor_ne_nil .intersection)
    simp only [List.flatMap_cons, List.flatMap_nil, List.append_nil, List.length_append]
    omega
  refine .intersection (by simp [ht, hu]) hcount ?_
  intro m hm hkind
  have hlevel : m.level < 2 := by
    rw [List.flatMap_cons, List.flatMap_singleton, List.mem_append] at hm
    rcases hm with hm | hm
    · exact Nat.lt_of_le_of_lt (ht.level_le_of_mem_membersFor hm) htlevel
    · exact Nat.lt_of_le_of_lt (hu.level_le_of_mem_membersFor hm) hulevel
  exact Nat.ne_of_lt hlevel (kind_eq_union_iff.1 hkind)

/-- What is written for two legible types with `&` between them is the text of a legible type. It is
a union if one of them is. -/
theorem IsLegible.exists_glue : ∃ whole : TypeExpr, whole.IsLegible ∧
    whole.text = t.text ++ " & " ++ u.text ∧ (whole.level = 2 ↔ t.level = 2 ∨ u.level = 2) := by
  obtain ⟨before, last, hbefore⟩ : ∃ before last, membersFor .union t = before ++ [last] :=
    ⟨_, _, (List.dropLast_append_getLast (ht.membersFor_ne_nil .union)).symm⟩
  obtain ⟨first, after, hafter⟩ := List.exists_cons_of_ne_nil (hu.membersFor_ne_nil .union)
  -- the members of both of them, of which the last one and the first one come together
  have htmember : ∀ m ∈ before ++ [last], m.IsLegible ∧ m.level < 2 := by
    rw [← hbefore]
    exact fun m hm => ⟨(ht.of_mem_membersFor hm).1, ht.level_lt_two_of_mem hm⟩
  have humember : ∀ m ∈ first :: after, m.IsLegible ∧ m.level < 2 := by
    rw [← hafter]
    exact fun m hm => ⟨(hu.of_mem_membersFor hm).1, hu.level_lt_two_of_mem hm⟩
  rw [List.forall_mem_append, List.forall_mem_singleton] at htmember
  rw [List.forall_mem_cons] at humember
  obtain ⟨htmembers, hlast, hlastLevel⟩ := htmember
  obtain ⟨⟨hfirst, hfirstLevel⟩, humembers⟩ := humember
  have hmembers : ∀ m ∈ before ++ TypeExpr.intersection [last, first] :: after,
      m.IsLegible ∧ m.level < 2 := by
    rw [List.forall_mem_append, List.forall_mem_cons]
    exact ⟨htmembers, ⟨hlast.intersection_pair hfirst hlastLevel hfirstLevel, Nat.lt_succ_self 1⟩,
      humembers⟩
  obtain ⟨hlegible, hlevel⟩ := @IsLegible.ofOperands .union _ (by simp)
    (fun m hm => (hmembers m hm).1) fun m hm => (hmembers m hm).2
  refine ⟨_, hlegible, ?_, ?_⟩
  · rw [text_ofOperands, List.map_append, List.map_cons, text_intersection_pair hlast hfirst,
      intercalate_glue, text_eq_intercalate .union t, text_eq_intercalate .union u, hbefore, hafter,
      List.map_append, List.map_singleton, List.map_cons]
  · have htlevel := ht.level_eq_iff .union
    have hulevel := hu.level_eq_iff .union
    rw [hbefore] at htlevel
    rw [hafter] at hulevel
    show _ = Operator.union.level ↔ t.level = Operator.union.level ∨ u.level = Operator.union.level
    rw [hlevel, htlevel, hulevel]
    simp only [List.length_append, List.length_cons, List.length_nil]
    omega

end Pair

/-- What is written for legible types with `&` between them is the text of a legible type. It is a
union if one of them is. -/
theorem exists_intersection_text {ts : List TypeExpr} (hne : ts ≠ []) (h : ∀ t ∈ ts, t.IsLegible) :
    ∃ whole : TypeExpr, whole.IsLegible ∧ whole.text = String.intercalate " & " (ts.map text) ∧
      (whole.level = 2 ↔ ∃ t ∈ ts, t.level = 2) := by
  -- from the right, so that all that stands behind a type is one legible type already
  induction ts with
  | nil => exact absurd rfl hne
  | cons t rest ih =>
    rw [List.forall_mem_cons] at h
    cases rest with
    | nil => exact ⟨t, h.1, String.intercalate_singleton.symm, by simp⟩
    | cons u us =>
      obtain ⟨whole, hwhole, htext, hlevel⟩ := ih (List.cons_ne_nil u us) h.2
      obtain ⟨both, hboth, hbothText, hbothLevel⟩ := h.1.exists_glue hwhole
      refine ⟨both, hboth, ?_, ?_⟩
      · rw [hbothText, htext]
        exact String.intercalate_cons_cons.symm
      · rw [hbothLevel, hlevel]
        simp only [List.mem_cons, exists_eq_or_imp]

/-- Unions are what keeps the text of an intersection of legible types from being one. -/
theorem text_intersection_ne_iff {ts : List TypeExpr} (h : ∀ t ∈ ts, t.IsLegible)
    (hcount : 2 ≤ (ts.flatMap (membersFor .intersection)).length) :
    (∀ us, (union us).IsLegible → (intersection ts).text ≠ (union us).text) ↔
      ∀ m ∈ ts.flatMap (membersFor .intersection), m.kind ≠ .union := by
  constructor
  · intro hne m hm hkind
    have hmembers : ts.flatMap (membersFor .intersection) ≠ [] := List.ne_nil_of_mem hm
    obtain ⟨whole, hwhole, htext, hlevel⟩ := exists_intersection_text hmembers fun t ht =>
      (IsLegible.of_mem_flatMap h ht).1
    have hunion : whole.level = Operator.union.level := hlevel.2 ⟨m, hm, kind_eq_union_iff.1 hkind⟩
    obtain ⟨us, rfl⟩ := exists_members_of_level_eq hunion
    have hus : union us = .compound .union us := hwhole.join_eq
    refine hne us (hus ▸ hwhole) ?_
    rw [hus, htext, intersection, text_join]
    rfl
  · intro hunion us hlegible htext
    have hread := (IsLegible.intersection h hcount hunion).read_text
    rw [htext, hlegible.read_text] at hread
    simp [intersection, union, join, fill] at hread

/-! ## What becomes of unions -/

/-- A union falls apart wherever it stands in an intersection. -/
theorem exists_union_text_eq {before members after : List TypeExpr}
    (hnames : ∀ t ∈ before ++ members ++ after, t.HasPlainNames)
    (hcount : 2 ≤ (members.flatMap (membersFor .union)).length) :
    ∃ others, (∀ t ∈ others, t.HasPlainNames) ∧ 2 ≤ (others.flatMap (membersFor .union)).length ∧
      (intersection (before ++ union members :: after)).text = (union others).text := by
  rw [List.forall_mem_append, List.forall_mem_append] at hnames
  obtain ⟨⟨hbefore, hmembers⟩, hafter⟩ := hnames
  have hflat : ∀ t ∈ members.flatMap (membersFor .union), t.HasPlainNames := by
    intro t ht
    obtain ⟨m, hm, hmem⟩ := List.mem_flatMap.1 ht
    exact (hmembers m hm).of_mem_membersFor hmem
  obtain ⟨first, middle, last, heq⟩ := exists_first_middle_last hcount
  rw [heq] at hflat
  refine ⟨regroup before first middle last after,
    hasPlainNames_regroup hbefore hflat hafter, ?_, ?_⟩
  · rw [flatMap_regroup, regroup]
    simp
  · rw [text_regroup, union, join, heq]

/-- A union of two members is not kept together in an intersection: the text is that of a union,
whatever stands before and behind. The text of an intersection of legible types is never mistaken
for that of a union exactly if none of its members is one. -/
theorem text_intersection_of_union {ts : List TypeExpr} :
    (∀ before members after : List TypeExpr, ts = before ++ union members :: after →
      (∀ t ∈ before ++ members ++ after, t.HasPlainNames) →
      2 ≤ (members.flatMap (membersFor .union)).length →
      ∃ others, (∀ t ∈ others, t.HasPlainNames) ∧
        2 ≤ (others.flatMap (membersFor .union)).length ∧
        (intersection ts).text = (union others).text) ∧
    ((∀ t ∈ ts, t.IsLegible) → 2 ≤ (ts.flatMap (membersFor .intersection)).length →
      ((∀ us, (union us).IsLegible → (intersection ts).text ≠ (union us).text) ↔
        ∀ m ∈ ts.flatMap (membersFor .intersection), m.kind ≠ .union)) := by
  constructor
  · rintro before members after rfl hnames hcount
    exact exists_union_text_eq hnames hcount
  · exact text_intersection_ne_iff

/-- `a | b & c` is the text of a union, and of the intersection of a union. -/
theorem text_intersection_of_union_names :
    (intersection [union [.primitive "a", .primitive "b"], .primitive "c"]).text = "a | b & c" ∧
    (∃ others, (∀ t ∈ others, t.HasPlainNames) ∧
      2 ≤ (others.flatMap (membersFor .union)).length ∧
      (intersection [union [.primitive "a", .primitive "b"], .primitive "c"]).text
        = (union others).text) ∧
    ∀ us, (union us).IsLegible →
      (intersection [.primitive "b", .primitive "c"]).text ≠ (union us).text := by
  have hnames : ∀ t ∈ [] ++ [TypeExpr.primitive "a", .primitive "b"] ++ [TypeExpr.primitive "c"],
      t.HasPlainNames := by
    simp only [List.nil_append, List.cons_append, List.forall_mem_cons]
    exact ⟨.primitive (by decide) (by decide), .primitive (by decide) (by decide),
      .primitive (by decide) (by decide), fun _ h => by cases h⟩
  have hlegible : ∀ t ∈ [TypeExpr.primitive "b", .primitive "c"], t.IsLegible := by
    simp only [List.forall_mem_cons]
    exact ⟨.primitive (by decide) (by decide), .primitive (by decide) (by decide),
      fun _ h => by cases h⟩
  refine ⟨by decide +kernel, ?_, ?_⟩
  · exact text_intersection_of_union.1 [] _ _ rfl hnames (by decide)
  · exact (text_intersection_of_union.2 hlegible (by decide)).2 (by decide)

/-- Unions do not stay together in intersections. -/
theorem not_forall_text_intersection_ne :
    ¬ ∀ before members after : List TypeExpr,
      (∀ t ∈ before ++ members ++ after, t.HasPlainNames) →
      2 ≤ (members.flatMap (membersFor .union)).length → before ++ after ≠ [] →
      ∀ others, (∀ t ∈ others, t.HasPlainNames) →
        2 ≤ (others.flatMap (membersFor .union)).length →
        (intersection (before ++ union members :: after)).text ≠ (union others).text := by
  intro h
  have ha : (primitive "a").HasPlainNames := .primitive (by decide) (by decide)
  have hb : (primitive "b").HasPlainNames := .primitive (by decide) (by decide)
  have hc : (primitive "c").HasPlainNames := .primitive (by decide) (by decide)
  have hinner : (intersection [.primitive "b", .primitive "c"]).HasPlainNames :=
    .join (by simp [hb, hc]) _
  refine h [] [.primitive "a", .primitive "b"] [.primitive "c"] (by simp [ha, hb, hc]) (by decide)
    (by simp) [.primitive "a", intersection [.primitive "b", .primitive "c"]] (by simp [ha, hinner])
    (by decide) ?_
  decide +kernel

end SchemaTypes.TypeExpr
