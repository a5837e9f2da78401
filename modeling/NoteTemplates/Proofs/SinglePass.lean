import NoteTemplates.Proofs.Answers

/-!
# Tokens replaced in one pass

Tokens are replaced one after the other, each in the whole text as the ones before left it. In
a text in which every curly bracket with a dollar sign behind it begins a token, this is the
same as one pass from left to right that replaces each token by the value of its name, if the
values are not empty and hold neither a curly bracket nor a dollar sign. Such a value makes no
token with what stands around it: the text keeps its tokens whole through all replacements,
and the ones that are left are those that have not had their turn.

So the order of the values does not matter, what a token becomes does not depend on the rest of
the text, and a second replacement finds nothing to replace.
-/

namespace NoteTemplates
namespace Template

/-- What a token begins with. -/
def opening : Text := "\x7b$"

/-- What can be the name in a token of a text. -/
def IsName (name : Text) : Prop :=
  name ≠ [] ∧ ∀ c ∈ name, Variable.isNameChar c = true

/-- Wherever a curly bracket has a dollar sign behind it, a token begins. -/
def HasWholeTokens (s : Text) : Prop :=
  ∀ t, t <:+ s → opening <+: t → ∃ name, IsName name ∧ Variable.token name <+: t

/-- A value that makes no token with what stands around it. -/
def IsInert (value : Text) : Prop :=
  value ≠ [] ∧ '\x7b' ∉ value ∧ '$' ∉ value

/-- The name in the token that a text begins with. -/
def tokenName? (s : Text) : Option Text :=
  (Text.afterPrefix? opening s).bind fun rest =>
    let name := rest.takeWhile Variable.isNameChar
    if name ≠ [] ∧ Text.startsWith "\x7d" (rest.dropWhile Variable.isNameChar) then some name
    else none

/-- The name in the token that a text begins with, and how many characters follow its first. -/
def findToken (s : Text) : Option (Text × Nat) :=
  (tokenName? s).map fun name => (name, (Variable.token name).length - 1)

/--
A text in which, in one pass from left to right, each token of a known name is replaced by the
value of the name. Other tokens stay, and what was put in is not looked at.
-/
def fillOnce (known : Text → Option Text) (s : Text) : Text :=
  (Text.cut findToken 0 s).flatMap
    (Text.Piece.write fun name => (known name).getD (Variable.token name))

/-- The value of a name: the one given for it, or else the built-in one. -/
def valueOf (values builtIns : Bindings) (name : Text) : Option Text :=
  (values.get? name).or (builtIns.get? (Variable.token name))

section Tokens

variable {name other rest s t value : Text} {c : Char}

theorem token_append (name rest : Text) :
    Variable.token name ++ rest = opening ++ (name ++ '\x7d' :: rest) := by
  simp [Variable.token, opening]

theorem opening_prefix_token (name : Text) : opening <+: Variable.token name :=
  ⟨name ++ ['\x7d'], by simp [Variable.token, opening]⟩

theorem token_prefix_append :
    Variable.token name <+: opening ++ s ↔ name ++ ['\x7d'] <+: s := by
  have htoken : Variable.token name = opening ++ (name ++ ['\x7d']) := by
    simp [Variable.token, opening]
  rw [htoken, List.prefix_append_right_inj]

theorem opening_prefix_cons : opening <+: c :: s ↔ c = '\x7b' ∧ s.head? = some '$' := by
  have hopening : opening = ['\x7b', '$'] := by decide
  rw [hopening, List.cons_prefix_cons, eq_comm]
  cases s with
  | nil => simp
  | cons d s => simp [List.cons_prefix_cons, eq_comm]

/-- A character that stands in no name ends the longest name in front of it. -/
theorem tokenName?_eq_some :
    tokenName? s = some name ↔ IsName name ∧ Variable.token name <+: s := by
  have hclose : ("\x7d" : Text) = ['\x7d'] := by decide
  rw [tokenName?, Option.bind_eq_some_iff]
  constructor
  · rintro ⟨rest, hrest, hname⟩
    rw [Text.afterPrefix?_eq_some] at hrest
    dsimp only at hname
    split at hname
    · rename_i hends
      obtain rfl := Option.some.inj hname
      rw [Text.startsWith_iff, hclose] at hends
      obtain ⟨hne, behind, hbehind⟩ := hends
      refine ⟨⟨hne, List.all_eq_true.mp List.all_takeWhile⟩, behind, ?_⟩
      rw [token_append, hrest, ← List.singleton_append, hbehind, List.takeWhile_append_dropWhile]
    · cases hname
  · rintro ⟨hname, behind, rfl⟩
    have hends : ∀ c ∈ ('\x7d' :: behind).head?, Variable.isNameChar c = false := by
      rintro c ⟨rfl⟩
      decide
    refine ⟨name ++ '\x7d' :: behind,
      Text.afterPrefix?_eq_some.mpr (token_append name behind), ?_⟩
    rw [Text.takeWhile_append hname.2 hends, Text.dropWhile_append hname.2 hends,
      if_pos ⟨hname.1, Text.startsWith_iff.mpr ⟨behind, by rw [hclose]; rfl⟩⟩]

/-- A text begins with the token of one name at most. -/
theorem eq_of_begins_token (hname : ∀ c ∈ name, Variable.isNameChar c = true)
    (hother : ∀ c ∈ other, Variable.isNameChar c = true)
    (h : Variable.token name <+: Variable.token other ++ rest) : name = other := by
  have hclose {s : Text} (hs : ∀ c ∈ s, Variable.isNameChar c = true) : '\x7d' ∉ s :=
    fun hmem => absurd (hs _ hmem) (by decide)
  obtain ⟨behind, hbehind⟩ := h
  rw [token_append, token_append, List.append_cancel_left_eq] at hbehind
  exact (Text.append_cons_inj (hclose hother) (hclose hname) hbehind).1.symm

theorem token_inj : Variable.token name = Variable.token other ↔ name = other := by
  simp [Variable.token]

end Tokens

section Parting

variable {name rest s t value : Text} {c : Char}

/-- A text put together from tokens and from characters at which none begins. -/
inductive Tokened : Text → Prop
  | nil : Tokened []
  | token {name rest : Text} (isName : IsName name) (behind : Tokened rest) :
      Tokened (Variable.token name ++ rest)
  | plain {c : Char} {s : Text} (no : ¬ opening <+: c :: s) (behind : Tokened s) :
      Tokened (c :: s)

/-- A text without a curly bracket has no token. -/
theorem Tokened.append_of_notMem (hs : Tokened s) (ht : '\x7b' ∉ t) : Tokened (t ++ s) := by
  induction t with
  | nil => exact hs
  | cons c t ih =>
      rw [List.mem_cons, not_or] at ht
      refine .plain (fun hopens => ht.1 ?_) (ih ht.2)
      exact (opening_prefix_cons.mp hopens).1.symm

theorem HasWholeTokens.of_suffix (h : HasWholeTokens s) (ht : t <:+ s) : HasWholeTokens t :=
  fun u hu => h u (hu.trans ht)

/-- What is in front of a token has whole tokens if all has. -/
theorem HasWholeTokens.of_append_token (h : HasWholeTokens (s ++ (Variable.token name ++ rest))) :
    HasWholeTokens s := by
  rintro t ⟨before, rfl⟩ ⟨behind, rfl⟩
  obtain ⟨other, hother, hbegins⟩ := h (opening ++ behind ++ (Variable.token name ++ rest))
    ⟨before, by simp⟩ ⟨behind ++ (Variable.token name ++ rest), by simp⟩
  refine ⟨other, hother, ?_⟩
  -- the token behind begins with a bracket, which a token does not hold further on
  rw [List.append_assoc, token_prefix_append] at hbegins
  rw [token_prefix_append]
  have hbracket : '\x7b' ∉ other ++ ['\x7d'] := by
    rw [List.mem_append, not_or]
    exact ⟨fun hmem => absurd (hother.2 _ hmem) (by decide), by decide⟩
  exact Text.prefix_of_prefix_append_cons hbracket hbegins

/-- A text with whole tokens can be put together from them, by induction on its length. -/
theorem HasWholeTokens.tokened (h : HasWholeTokens s) : Tokened s := by
  induction hlength : s.length using Nat.strongRecOn generalizing s with
  | ind n ih =>
      subst hlength
      cases s with
      | nil => exact .nil
      | cons c s =>
          by_cases hopens : opening <+: c :: s
          · obtain ⟨name, hname, rest, hrest⟩ := h (c :: s) List.suffix_rfl hopens
            have hlength := congrArg List.length hrest
            rw [List.length_append] at hlength
            have hpos : 0 < (Variable.token name).length := by simp [Variable.token]
            rw [← hrest] at h ⊢
            exact .token hname (ih _ (by omega) (h.of_suffix (List.suffix_append _ _)) rfl)
          · exact .plain hopens (ih _ (by simp) (h.of_suffix (List.suffix_cons c s)) rfl)

instance (s : Text) : Decidable (HasWholeTokens s) :=
  decidable_of_iff (∀ t ∈ s.tails, Text.startsWith opening t = true → (tokenName? t).isSome) <| by
    simp only [HasWholeTokens, List.mem_tails, Text.startsWith_iff, Option.isSome_iff_exists,
      tokenName?_eq_some]

instance (value : Text) : Decidable (IsInert value) :=
  inferInstanceAs (Decidable (_ ∧ _ ∧ _))

end Parting

section Filling

variable {known first second : Text → Option Text} {name rest s t value : Text} {c : Char}
  {values builtIns others : Bindings}

theorem fillOnce_token (hname : IsName name) (known : Text → Option Text) (rest : Text) :
    fillOnce known (Variable.token name ++ rest) =
      (known name).getD (Variable.token name) ++ fillOnce known rest := by
  have hfind : findToken (Variable.token name ++ rest) =
      some (name, (Variable.token name).length - 1) := by
    rw [findToken, tokenName?_eq_some.mpr ⟨hname, List.prefix_append _ _⟩, Option.map_some]
  rw [fillOnce, Text.cut_append_of_some (by simp [Variable.token]) hfind]
  rfl

theorem fillOnce_cons (h : ¬ opening <+: c :: s) (known : Text → Option Text) :
    fillOnce known (c :: s) = c :: fillOnce known s := by
  have hfind : findToken (c :: s) = none := by
    rw [findToken, Option.map_eq_none_iff, Option.eq_none_iff_forall_ne_some]
    intro name hname
    exact h ((opening_prefix_token name).trans (tokenName?_eq_some.mp hname).2)
  rw [fillOnce, Text.cut_cons_of_none hfind]
  rfl

theorem fillOnce_append_of_notMem (ht : '\x7b' ∉ t) (known : Text → Option Text) (s : Text) :
    fillOnce known (t ++ s) = t ++ fillOnce known s := by
  induction t with
  | nil => rfl
  | cons c t ih =>
      rw [List.mem_cons, not_or] at ht
      have hno : ¬ opening <+: c :: (t ++ s) := fun h => ht.1 (opening_prefix_cons.mp h).1.symm
      rw [List.cons_append, fillOnce_cons hno, ih ht.2, List.cons_append]

/-- All values that are known are inert. -/
def KnowsInert (known : Text → Option Text) : Prop :=
  ∀ name value, known name = some value → IsInert value

/-- No dollar sign comes to the front when inert values are put in. -/
theorem head?_fillOnce (hs : Tokened s) (hknown : KnowsInert known) (h : s.head? ≠ some '$') :
    (fillOnce known s).head? ≠ some '$' := by
  cases hs with
  | nil => exact h
  | @token name rest isName behind =>
      rw [fillOnce_token isName]
      cases hvalue : known name with
      | none => simp [Variable.token]
      | some value =>
          obtain ⟨hne, -, hdollar⟩ := hknown name value hvalue
          rw [Option.getD_some, List.head?_append_of_ne_nil _ hne]
          exact fun hhead => hdollar (List.mem_of_head? hhead)
  | plain no behind =>
      rw [fillOnce_cons no]
      exact h

/-- A character at which no token begins stays one when inert values are put in behind it. -/
theorem not_opening_fillOnce (hs : Tokened s) (hknown : KnowsInert known)
    (h : ¬ opening <+: c :: s) : ¬ opening <+: c :: fillOnce known s := by
  rw [opening_prefix_cons, not_and] at h ⊢
  exact fun hc => head?_fillOnce hs hknown (h hc)

/-- Inert values keep the tokens of a text whole. -/
theorem Tokened.fillOnce (hs : Tokened s) (hknown : KnowsInert known) :
    Tokened (fillOnce known s) := by
  induction hs with
  | nil => exact .nil
  | @token name rest isName behind ih =>
      rw [fillOnce_token isName]
      cases hvalue : known name with
      | none => exact .token isName ih
      | some value => exact ih.append_of_notMem (hknown name value hvalue).2.1
  | plain no behind ih =>
      rw [fillOnce_cons no]
      exact .plain (not_opening_fillOnce behind hknown no) ih

/-- Two passes are one, in which the values of the first pass come first. -/
theorem fillOnce_fillOnce (hs : Tokened s) (hfirst : KnowsInert first)
    (second : Text → Option Text) :
    fillOnce second (fillOnce first s) =
      fillOnce (fun name => (first name).or (second name)) s := by
  induction hs with
  | nil => rfl
  | @token name rest isName behind ih =>
      rw [fillOnce_token isName, fillOnce_token isName]
      cases hvalue : first name with
      | none => rw [Option.getD_none, fillOnce_token isName, ih, Option.none_or]
      | some value =>
          rw [Option.getD_some, fillOnce_append_of_notMem (hfirst name value hvalue).2.1, ih,
            Option.some_or, Option.getD_some]
  | plain no behind ih =>
      rw [fillOnce_cons no, fillOnce_cons (not_opening_fillOnce behind hfirst no), ih,
        fillOnce_cons no]

theorem fillOnce_none (hs : Tokened s) : fillOnce (fun _ => none) s = s := by
  induction hs with
  | nil => rfl
  | token isName behind ih => rw [fillOnce_token isName, ih, Option.getD_none]
  | plain no behind ih => rw [fillOnce_cons no, ih]

/-- A text in front of another that begins with no dollar sign is filled by itself. -/
theorem fillOnce_append (hs : Tokened s) (ht : t.head? ≠ some '$')
    (known : Text → Option Text) :
    fillOnce known (s ++ t) = fillOnce known s ++ fillOnce known t := by
  induction hs with
  | nil => rfl
  | token isName behind ih =>
      rw [List.append_assoc, fillOnce_token isName, ih, fillOnce_token isName, List.append_assoc]
  | @plain c s no behind ih =>
      have hno : ¬ opening <+: c :: (s ++ t) := by
        rw [opening_prefix_cons, not_and] at no ⊢
        intro hc
        cases s with
        | nil => exact ht
        | cons d s => exact no hc
      rw [List.cons_append, fillOnce_cons hno, ih, fillOnce_cons no, List.cons_append]

end Filling

section Replacing

variable {name other s t : Text} {values builtIns others : Bindings}

/-- Every binding is a token of a name with an inert value. -/
def HoldsInert (values : Bindings) : Prop :=
  ∀ binding ∈ values, IsInert binding.2 ∧
    ∃ name, (∀ c ∈ name, Variable.isNameChar c = true) ∧ Variable.token name = binding.1

/-- A text without a curly bracket stays in front of what is replaced. -/
theorem replaceAll_append_of_notMem {p : Text} (hp : IsToken p) (ht : '\x7b' ∉ t)
    (value s : Text) : Text.replaceAll p value (t ++ s) = t ++ Text.replaceAll p value s := by
  induction t with
  | nil => rfl
  | cons c t ih =>
      rw [List.mem_cons, not_or] at ht
      rw [List.cons_append, Text.replaceAll_cons hp.ne_nil (hp.not_begins (Ne.symm ht.1) _),
        ih ht.2, List.cons_append]

/-- The token of another name is passed over. -/
theorem replaceAll_token_append (hname : ∀ c ∈ name, Variable.isNameChar c = true)
    (hother : IsName other) (hne : other ≠ name) (value s : Text) :
    Text.replaceAll (Variable.token name) value (Variable.token other ++ s) =
      Variable.token other ++ Text.replaceAll (Variable.token name) value s := by
  have htoken := isToken_token hname
  have hno : ¬ Variable.token name <+: Variable.token other ++ s :=
    fun h => hne (eq_of_begins_token hname hother.2 h).symm
  have hinner : '\x7b' ∉ '$' :: (other ++ ['\x7d']) := by
    simp only [List.mem_cons, List.mem_append, List.not_mem_nil, or_false, not_or]
    exact ⟨by decide, fun hmem => absurd (hother.2 _ hmem) (by decide), by decide⟩
  have hcons (t : Text) :
      Variable.token other ++ t = '\x7b' :: (('$' :: (other ++ ['\x7d'])) ++ t) := by
    simp [Variable.token]
  rw [hcons] at hno
  rw [hcons, hcons, Text.replaceAll_cons htoken.ne_nil hno,
    replaceAll_append_of_notMem htoken hinner]

/-- Replacing one token in a text with whole tokens is a pass. -/
theorem replaceAll_eq_fillOnce (hs : Tokened s)
    (hname : ∀ c ∈ name, Variable.isNameChar c = true) (value : Text) :
    Text.replaceAll (Variable.token name) value s =
      fillOnce (fun other => if other = name then some value else none) s := by
  have hne := (isToken_token hname).ne_nil
  induction hs with
  | nil => exact Text.replaceAll_nil hne value
  | @token other rest isName behind ih =>
      rw [fillOnce_token isName]
      by_cases hsame : other = name
      · rw [if_pos hsame, hsame, Text.replaceAll_append hne, ih, Option.getD_some]
      · rw [if_neg hsame, replaceAll_token_append hname isName hsame, ih, Option.getD_none]
  | @plain c s no behind ih =>
      have hno : ¬ Variable.token name <+: c :: s :=
        fun h => no ((opening_prefix_token name).trans h)
      rw [Text.replaceAll_cons hne hno, ih, fillOnce_cons no]

theorem get?_cons (key value : Text) (values : Bindings) (name : Text) :
    Table.get? ((key, value) :: values) name =
      (if name = key then some value else none).or (values.get? name) := by
  rw [Table.get?, Table.get?, List.lookup_cons]
  by_cases hsame : name = key
  · rw [if_pos hsame, hsame, beq_self_eq_true, Option.some_or]
  · rw [if_neg hsame, beq_eq_false_iff_ne.mpr hsame, Option.none_or]

/-- Replacing tokens one after the other is one pass, by induction along the tokens. -/
theorem replaceTokens_eq_fillOnce (hs : Tokened s) (hvalues : HoldsInert values) :
    replaceTokens s values = fillOnce (fun name => values.get? (Variable.token name)) s := by
  induction values generalizing s with
  | nil => exact (fillOnce_none hs).symm
  | cons binding values ih =>
      obtain ⟨token, value⟩ := binding
      obtain ⟨hvalue, name, hname, rfl⟩ := hvalues _ List.mem_cons_self
      have hrest : HoldsInert values := fun b hb => hvalues b (List.mem_cons_of_mem _ hb)
      have hone : KnowsInert fun other => if other = name then some value else none := by
        intro other given hgiven
        dsimp only at hgiven
        split at hgiven
        · rwa [← Option.some.inj hgiven]
        · cases hgiven
      calc replaceTokens s ((Variable.token name, value) :: values)
          = replaceTokens (Text.replaceAll (Variable.token name) value s) values := rfl
        _ = replaceTokens
              (fillOnce (fun other => if other = name then some value else none) s) values := by
            rw [replaceAll_eq_fillOnce hs hname]
        _ = fillOnce (fun other => Table.get? ((Variable.token name, value) :: values)
              (Variable.token other)) s := by
            rw [ih (hs.fillOnce hone) hrest, fillOnce_fillOnce hs hone]
            simp only [get?_cons, token_inj]

theorem get?_withTokens (values : Bindings) (name : Text) :
    (withTokens values).get? (Variable.token name) = values.get? name := by
  induction values with
  | nil => rfl
  | cons binding values ih =>
      obtain ⟨other, value⟩ := binding
      have hcons : withTokens ((other, value) :: values) =
          (Variable.token other, value) :: withTokens values := rfl
      simp only [hcons, get?_cons, ih, token_inj]

end Replacing

section Substituting

variable {content name s : Text} {values others builtIns : Bindings}
  {environment : Environment} {directory base : Path} {now : Moment}

theorem HoldsInert.knowsInert (h : HoldsInert values) :
    KnowsInert fun name => values.get? (Variable.token name) := by
  intro name value hvalue
  obtain ⟨before, after, rfl, -⟩ := List.lookup_eq_some_iff.mp hvalue
  exact (h (Variable.token name, value) (by simp)).1

/-- Both replacements are one pass, in which the values that were given come first. -/
theorem substitute_eq_of_tokened (hs : Tokened s) (hvalues : HoldsInert (withTokens values))
    (hbuiltIns : HoldsInert builtIns) :
    substitute s values builtIns = fillOnce (valueOf values builtIns) s := by
  rw [substitute_eq, replaceTokens_eq_fillOnce hs hvalues,
    replaceTokens_eq_fillOnce (hs.fillOnce hvalues.knowsInert) hbuiltIns,
    fillOnce_fillOnce hs hvalues.knowsInert]
  simp only [get?_withTokens]
  rfl

theorem knowsInert_valueOf (hvalues : HoldsInert (withTokens values))
    (hbuiltIns : HoldsInert builtIns) : KnowsInert (valueOf values builtIns) := by
  intro name value hvalue
  rcases Option.or_eq_some_iff.mp hvalue with hgiven | ⟨-, hbuiltIn⟩
  · exact hvalues.knowsInert name value ((get?_withTokens values name).trans hgiven)
  · exact hbuiltIns.knowsInert name value hbuiltIn

theorem holdsInert_withTokens
    (hnames : ∀ binding ∈ values, ∀ c ∈ binding.1, Variable.isNameChar c = true)
    (hinert : ∀ binding ∈ values, IsInert binding.2) : HoldsInert (withTokens values) := by
  intro binding hbinding
  obtain ⟨⟨name, value⟩, hmem, rfl⟩ := List.mem_map.mp hbinding
  exact ⟨hinert (name, value) hmem, name, hnames (name, value) hmem, rfl⟩

/--
Replacing tokens one after the other in a text in which every curly bracket with a dollar sign
behind it begins a token, by values that are not empty and hold neither of the two characters,
is one pass from left to right: each token becomes the value given for its name, or else the
built-in one, or else stays.

So the order of the values does not matter; a token becomes the same wherever it stands, and
what stands in front of it and behind it is replaced by itself; a value that is given for a name
goes before a built-in one, and a token without a value stays as it is; and replacing once more
changes nothing.
-/
theorem substitute_eq_fillOnce (hcontent : HasWholeTokens content)
    (hnames : ∀ binding ∈ values, ∀ c ∈ binding.1, Variable.isNameChar c = true)
    (hinert : ∀ binding ∈ values ++ builtIns, IsInert binding.2)
    (hresolve : BuiltIns.resolve environment directory base now = .ok builtIns) :
    let fill (s : Text) := substitute s values builtIns
    fill content = fillOnce (valueOf values builtIns) content ∧
    (∀ others : Bindings, values.Perm others → (values.map (·.1)).Nodup →
      substitute content others builtIns = fill content) ∧
    (∀ before name after, IsName name → content = before ++ (Variable.token name ++ after) →
      fill content = fill before ++ (fill (Variable.token name) ++ fill after) ∧
      (∀ value, values.get? name = some value → fill (Variable.token name) = value) ∧
      (values.get? name = none → builtIns.get? (Variable.token name) = none →
        fill (Variable.token name) = Variable.token name)) ∧
    fill (fill content) = fill content := by
  intro fill
  obtain ⟨expanded, -, hbuiltInTokens⟩ := BuiltIns.resolve_eq_ok.mp hresolve
  have hvalues : HoldsInert (withTokens values) := holdsInert_withTokens hnames
    fun binding hbinding => hinert binding (List.mem_append_left _ hbinding)
  have hbuiltIns : HoldsInert builtIns := fun binding hbinding =>
    ⟨hinert binding (List.mem_append_right _ hbinding),
      exists_token_eq_of_mem_ofMoment (hbuiltInTokens ▸ hbinding)⟩
  have hknown := knowsInert_valueOf hvalues hbuiltIns
  have hfill {s : Text} (hs : Tokened s) : fill s = fillOnce (valueOf values builtIns) s :=
    substitute_eq_of_tokened hs hvalues hbuiltIns
  refine ⟨hfill hcontent.tokened, fun others hperm hsingle => ?_,
    fun before name after hname heq => ?_, ?_⟩
  · have hothers : HoldsInert (withTokens others) := fun binding hbinding =>
      hvalues binding ((hperm.map _).mem_iff.mpr hbinding)
    have hsame : valueOf others builtIns = valueOf values builtIns := by
      funext name
      have hget : others.get? name = values.get? name := lookup_of_perm hsingle hperm name
      rw [valueOf, valueOf, hget]
    rw [substitute_eq_of_tokened hcontent.tokened hothers hbuiltIns, hsame,
      hfill hcontent.tokened]
  · have htoken : fill (Variable.token name) =
        (valueOf values builtIns name).getD (Variable.token name) := by
      have hone : Tokened (Variable.token name ++ []) := .token hname .nil
      rw [← List.append_nil (Variable.token name), hfill hone, fillOnce_token hname,
        List.append_nil]
      exact List.append_nil _
    have hhead : (Variable.token name ++ after).head? ≠ some '$' := by simp [Variable.token]
    subst heq
    refine ⟨?_, fun value hvalue => ?_, fun hnone hnone' => ?_⟩
    · have hbehind := (hcontent.of_suffix (List.suffix_append _ _)).of_suffix
        (List.suffix_append _ _)
      rw [hfill hcontent.tokened, fillOnce_append hcontent.of_append_token.tokened hhead,
        fillOnce_token hname, htoken, hfill hcontent.of_append_token.tokened,
        hfill hbehind.tokened]
    · rw [htoken, valueOf, hvalue, Option.some_or, Option.getD_some]
    · rw [htoken, valueOf, hnone, hnone', Option.none_or, Option.getD_none]
  · rw [hfill hcontent.tokened, hfill (hcontent.tokened.fillOnce hknown),
      fillOnce_fillOnce hcontent.tokened hknown]
    simp only [Option.or_self]

/-- A value given for a built-in name goes before the built-in one, between brackets and signs. -/
theorem substitute_eq_fillOnce_own_date :
    let content : Text := "\x7b\x7b$date\x7d$\x7b$n\x7d \x7b$x\x7d \x7b$time\x7d"
    let values : Bindings := [("n", "N"), ("date", "today")]
    let builtIns := BuiltIns.ofMoment (Path.ofText "/base") ⟨2024, 1, 15, 9, 5⟩
    HasWholeTokens content ∧
      (∀ binding ∈ values, ∀ c ∈ binding.1, Variable.isNameChar c = true) ∧
      (∀ binding ∈ values ++ builtIns, IsInert binding.2) ∧
      substitute content values.reverse builtIns = "\x7btoday$N \x7b$x\x7d 09:05" ∧
      substitute (substitute content values builtIns) values builtIns =
        fillOnce (valueOf values builtIns) content := by
  intro content values builtIns
  have hcontent : HasWholeTokens content := by decide +kernel
  have hall : ∀ binding ∈ values, binding.1.all Variable.isNameChar = true := by decide
  have hnames : ∀ binding ∈ values, ∀ c ∈ binding.1, Variable.isNameChar c = true :=
    fun binding hbinding => List.all_eq_true.mp (hall binding hbinding)
  have hinert : ∀ binding ∈ values ++ builtIns, IsInert binding.2 := by decide +kernel
  have hresolve : BuiltIns.resolve {} ⟨.root, []⟩ (Path.ofText "/base") ⟨2024, 1, 15, 9, 5⟩ =
      .ok builtIns := by decide +kernel
  obtain ⟨hpass, hperm, -, hagain⟩ := substitute_eq_fillOnce hcontent hnames hinert hresolve
  have hreverse := hperm values.reverse (List.reverse_perm values).symm (by decide)
  have honce : fillOnce (valueOf values builtIns) content =
      "\x7btoday$N \x7b$x\x7d 09:05" := by decide +kernel
  exact ⟨hcontent, hnames, hinert, hreverse.trans (hpass.trans honce), hagain.trans hpass⟩

end Substituting

end Template
end NoteTemplates
