import Varsheet.Proofs.Json.Grammar

/-!
# Halves of surrogate pairs

Whoever lets lone halves pass takes every text that a stricter reader takes, for the same value. The other way
round holds where no escape names a half at all.

* `Spells.mono`, `SpellsMembers.mono` : more texts are spelled when lone halves are let pass
* `NamesHalf` : an escape in a text names half a pair
* `Spells.refusable` : without such escapes the stricter reader takes the text as well
-/

namespace Varsheet.Json

/-! ## Letting lone halves pass -/

/-- Where `less` lets a lone half pass, `more` does so too. -/
def Halves.Within (less more : Halves) : Prop :=
  less = .replaced → more = .replaced

theorem Halves.refused_within (more : Halves) : Halves.Within .refused more :=
  fun same => nomatch same

theorem Halves.within_replaced (less : Halves) : Halves.Within less .replaced :=
  fun _ => rfl

section

variable {less more : Halves} {body : List Char}

theorem SpellsEscape.mono {c : Char} {escape : List Char} (within : less.Within more)
    (spelled : SpellsEscape less c escape body) : SpellsEscape more c escape body := by
  cases spelled with
  | short listed => exact .short listed
  | unit spelled => exact .unit spelled
  | pair first isHigh second isLow code => exact .pair first isHigh second isLow code
  | lone let_pass spelled alone => exact .lone (within let_pass) spelled alone

theorem SpellsChars.mono {chars : List Char} (within : less.Within more)
    (spelled : SpellsChars less chars body) : SpellsChars more chars body := by
  induction spelled with
  | nil => exact .nil
  | plain notControl notQuote notBackslash _ ih => exact .plain notControl notQuote notBackslash ih
  | escape first _ ih => exact .escape (first.mono within) ih

theorem SpellsString.mono {value : String} (within : less.Within more)
    (spelled : SpellsString less value body) : SpellsString more value body := by
  obtain ⟨inside, parts, chars⟩ := spelled
  exact ⟨inside, parts, chars.mono within⟩

theorem Spaced.imp {P Q : List Char → Prop} {text : List Char} (weaker : ∀ body, P body → Q body)
    (spaced : Spaced P text) : Spaced Q text := by
  obtain ⟨before, middle, behind, parts, isBefore, inner, isBehind⟩ := spaced
  exact ⟨before, middle, behind, parts, isBefore, weaker middle inner, isBehind⟩

theorem SpellsMember.imp {P Q : List Char → Prop} {name : String} {text : List Char}
    (within : less.Within more) (weaker : ∀ body, P body → Q body)
    (spelled : SpellsMember less name P text) : SpellsMember more name Q text := by
  obtain ⟨label, behind, parts, spacedLabel, spaced⟩ := spelled
  exact ⟨label, behind, parts, spacedLabel.imp fun _ named => named.mono within, spaced.imp weaker⟩

end

mutual

theorem Spells.mono {less more : Halves} (within : less.Within more) : ∀ (value : Json) (body : List Char),
    Spells less value body → Spells more value body
  | .null, _, spelled | .bool true, _, spelled | .bool false, _, spelled => spelled
  | .number _, _, spelled => spelled
  | .string _, _, spelled => SpellsString.mono within spelled
  | .array elements, _, ⟨inside, parts, spelled⟩ =>
    ⟨inside, parts, SpellsElements.mono within elements inside spelled⟩
  | .object members, _, ⟨inside, parts, spelled⟩ =>
    ⟨inside, parts, SpellsMembers.mono within (fun _ => within) members inside spelled⟩

theorem SpellsElements.mono {less more : Halves} (within : less.Within more) :
    ∀ (elements : List Json) (body : List Char),
      SpellsElements less elements body → SpellsElements more elements body
  | [], _, blank => blank
  | [element], _, spaced => spaced.imp (Spells.mono within element)
  | element :: next :: rest, _, ⟨first, behind, parts, spaced, spelled⟩ =>
    ⟨first, behind, parts, spaced.imp (Spells.mono within element),
      SpellsElements.mono within (next :: rest) behind spelled⟩

theorem SpellsMembers.mono {less more : Halves} {mode mode' : String → Halves} (within : less.Within more)
    (withinMode : ∀ name, (mode name).Within (mode' name)) :
    ∀ (members : List (String × Json)) (body : List Char),
      SpellsMembers less mode members body → SpellsMembers more mode' members body
  | [], _, blank => blank
  | [(name, value)], _, spelled => SpellsMember.imp within (Spells.mono (withinMode name) value) spelled
  | (name, value) :: next :: rest, _, ⟨first, behind, parts, spelled, spelledRest⟩ =>
    ⟨first, behind, parts, SpellsMember.imp within (Spells.mono (withinMode name) value) spelled,
      SpellsMembers.mono within withinMode (next :: rest) behind spelledRest⟩

end

/-! ## Escapes that name a half -/

/-- Some escape in the text names half a surrogate pair. Escapes are passed over as they come, so that a
backslash which is itself escaped does not start another one. -/
inductive NamesHalf : List Char → Prop where
  | here {unit : Nat} {digits rest : List Char} (spelled : SpellsUnit unit digits)
      (half : IsHigh unit ∨ IsLow unit) : NamesHalf ('\\' :: 'u' :: (digits ++ rest))
  | behindEscape {c : Char} {rest : List Char} (later : NamesHalf rest) : NamesHalf ('\\' :: c :: rest)
  | behindPlain {c : Char} {rest : List Char} (notBackslash : c ≠ '\\') (later : NamesHalf rest) :
      NamesHalf (c :: rest)

theorem NamesHalf.append {text : List Char} (names : NamesHalf text) (rest : List Char) :
    NamesHalf (text ++ rest) := by
  induction names with
  | here spelled half =>
    rw [List.cons_append, List.cons_append, List.append_assoc]
    exact .here spelled half
  | behindEscape _ ih => exact .behindEscape ih
  | behindPlain notBackslash _ ih => exact .behindPlain notBackslash ih

/-- No escape reaches over the end of the text. -/
def Closed (text : List Char) : Prop :=
  ∀ rest, NamesHalf rest → NamesHalf (text ++ rest)

theorem closed_nil : Closed [] := fun _ names => names

theorem Closed.append {front back : List Char} (first : Closed front) (second : Closed back) :
    Closed (front ++ back) := by
  intro rest names
  rw [List.append_assoc]
  exact first _ (second rest names)

theorem Closed.cons {c : Char} {text : List Char} (notBackslash : c ≠ '\\') (closed : Closed text) :
    Closed (c :: text) :=
  fun rest names => .behindPlain notBackslash (closed rest names)

theorem closed_of_no_backslash {text : List Char} (absent : '\\' ∉ text) : Closed text := by
  induction text with
  | nil => exact closed_nil
  | cons c text ih =>
    rw [List.mem_cons, not_or] at absent
    exact .cons (Ne.symm absent.1) (ih absent.2)

theorem Blank.closed {text : List Char} (blank : Blank text) : Closed text :=
  closed_of_no_backslash fun member => nomatch blank _ member

theorem SpellsUnit.closed {unit : Nat} {digits : List Char} (spelled : SpellsUnit unit digits) :
    Closed digits := by
  have notHex {c : Char} {value : Nat} (hex : Text.hexValue? c = some value) : c ≠ '\\' := by
    rintro rfl
    cases hex
  obtain ⟨first, second, third, fourth⟩ := spelled
  exact .cons (notHex first) (.cons (notHex second) (.cons (notHex third) (.cons (notHex fourth) closed_nil)))

/-- A piece that is closed and, if no escape in it names a half, is also allowed by a stricter rule. -/
def Refusable (strict : List Char → Prop) (body : List Char) : Prop :=
  Closed body ∧ (¬ NamesHalf body → strict body)

theorem refusable_of_namesHalf {strict : List Char → Prop} {body : List Char} (names : NamesHalf body) :
    Refusable strict body :=
  ⟨fun rest _ => names.append rest, fun absent => absurd names absent⟩

theorem SpellsChars.refusable {halves : Halves} {chars body : List Char}
    (spelled : SpellsChars halves chars body) : Refusable (SpellsChars .refused chars) body := by
  induction spelled with
  | nil => exact ⟨closed_nil, fun _ => .nil⟩
  | plain notControl notQuote notBackslash _ ih =>
    refine ⟨.cons notBackslash ih.1, fun absent => ?_⟩
    exact .plain notControl notQuote notBackslash (ih.2 fun names => absent (.behindPlain notBackslash names))
  | @escape c chars escape body first _ ih =>
    cases first with
    | short listed =>
      refine ⟨fun rest names => .behindEscape (ih.1 rest names), fun absent => ?_⟩
      exact .escape (.short listed) (ih.2 fun names => absent (.behindEscape names))
    | unit spelled =>
      have closed := spelled.closed.append ih.1
      refine ⟨fun rest names => .behindEscape (closed rest names), fun absent => ?_⟩
      exact .escape (.unit spelled) (ih.2 fun names => absent (.behindEscape (spelled.closed body names)))
    | pair first isHigh second isLow code =>
      refine refusable_of_namesHalf ?_
      rw [List.cons_append, List.append_assoc]
      exact .here first (.inl isHigh)
    | lone let_pass spelled alone =>
      exact refusable_of_namesHalf (.here spelled (alone.imp_left And.left))

section

variable {strict strict' : List Char → Prop} {front back : List Char}

/-- A piece in front of another one and the piece behind it are looked at one by one. -/
theorem Refusable.append {whole : List Char → Prop} (first : Refusable strict front)
    (second : Refusable strict' back) (join : strict front → strict' back → whole (front ++ back)) :
    Refusable whole (front ++ back) := by
  refine ⟨first.1.append second.1, fun absent => ?_⟩
  exact join (first.2 fun names => absent (names.append back)) (second.2 fun names => absent (first.1 back names))

theorem Refusable.cons {whole : List Char → Prop} {c : Char} (notBackslash : c ≠ '\\')
    (rest : Refusable strict back) (join : strict back → whole (c :: back)) : Refusable whole (c :: back) :=
  ⟨.cons notBackslash rest.1, fun absent => join (rest.2 fun names => absent (.behindPlain notBackslash names))⟩

theorem refusable_of_closed (closed : Closed front) (spelled : strict front) : Refusable strict front :=
  ⟨closed, fun _ => spelled⟩

theorem Spaced.refusable {inner : List Char → Prop} {text : List Char} (spaced : Spaced inner text)
    (each : ∀ body, inner body → Refusable strict body) : Refusable (Spaced strict) text := by
  obtain ⟨before, middle, behind, rfl, isBefore, spelled, isBehind⟩ := spaced
  have pieces : Refusable (fun text => ∃ middle behind, text = middle ++ behind ∧ strict middle ∧ Blank behind)
      (middle ++ behind) :=
    (each middle spelled).append (refusable_of_closed isBehind.closed isBehind)
      fun inner blank => ⟨middle, behind, rfl, inner, blank⟩
  refine (refusable_of_closed isBefore.closed isBefore).append pieces ?_
  rintro blank ⟨middle', behind', parts, inner, blank'⟩
  exact ⟨before, middle', behind', by rw [parts], blank, inner, blank'⟩

end

theorem SpellsString.refusable {halves : Halves} {value : String} {text : List Char}
    (spelled : SpellsString halves value text) : Refusable (SpellsString .refused value) text := by
  obtain ⟨body, rfl, chars⟩ := spelled
  have quote : Refusable (fun text => text = ['"']) ['"'] :=
    refusable_of_closed (.cons (by decide) closed_nil) rfl
  have pieces : Refusable (fun text => text = body ++ ['"'] ∧ SpellsChars .refused value.toList body)
      (body ++ ['"']) := chars.refusable.append quote fun strict _ => ⟨rfl, strict⟩
  exact .cons (by decide) pieces fun ⟨_, strict⟩ => ⟨body, rfl, strict⟩

theorem SpellsMember.refusable {names : Halves} {name : String} {inner strict : List Char → Prop}
    {text : List Char} (spelled : SpellsMember names name inner text)
    (each : ∀ body, inner body → Refusable strict body) : Refusable (SpellsMember .refused name strict) text := by
  obtain ⟨label, behind, rfl, spacedLabel, spaced⟩ := spelled
  have colon : Refusable (fun text => text = ':' :: behind ∧ Spaced strict behind) (':' :: behind) :=
    .cons (by decide) (spaced.refusable each) fun spaced => ⟨rfl, spaced⟩
  exact (spacedLabel.refusable fun _ named => named.refusable).append colon
    fun spacedLabel ⟨_, spaced⟩ => ⟨label, behind, rfl, spacedLabel, spaced⟩

/-- Two pieces with a comma between them. -/
theorem Refusable.comma {strict strict' whole : List Char → Prop} {first behind : List Char}
    (head : Refusable strict first) (tail : Refusable strict' behind)
    (join : strict first → strict' behind → whole (first ++ ',' :: behind)) :
    Refusable whole (first ++ ',' :: behind) := by
  have comma : Refusable (fun text => text = ',' :: behind ∧ strict' behind) (',' :: behind) :=
    .cons (by decide) tail fun spelled => ⟨rfl, spelled⟩
  exact head.append comma fun first ⟨_, behind⟩ => join first behind

theorem Refusable.brackets {strict whole : List Char → Prop} {opening closing : Char} {body : List Char}
    (plain : opening ≠ '\\' ∧ closing ≠ '\\') (inner : Refusable strict body)
    (join : strict body → whole (opening :: (body ++ [closing]))) :
    Refusable whole (opening :: (body ++ [closing])) := by
  have bracket : Refusable (fun _ => True) [closing] :=
    refusable_of_closed (.cons plain.2 closed_nil) trivial
  have pieces : Refusable (fun _ => strict body) (body ++ [closing]) :=
    inner.append bracket fun strict _ => strict
  exact .cons plain.1 pieces join

theorem IsDigits.closed {digits : List Char} (isDigits : IsDigits digits) : Closed digits :=
  closed_of_no_backslash fun member => nomatch isDigits.2 _ member

theorem SpellsFraction.closed {fraction : Option (List Char)} {text : List Char}
    (spelled : SpellsFraction fraction text) : Closed text := by
  cases fraction with
  | none =>
    subst spelled
    exact closed_nil
  | some digits =>
    obtain ⟨rfl, isDigits⟩ := spelled
    exact .cons (by decide) isDigits.closed

theorem SpellsExponent.closed {exponent : Option (Bool × List Char)} {text : List Char}
    (spelled : SpellsExponent exponent text) : Closed text := by
  cases exponent with
  | none =>
    subst spelled
    exact closed_nil
  | some parts =>
    obtain ⟨negative, digits⟩ := parts
    obtain ⟨mark, sign, rfl, isMark, spelledSign, isDigits⟩ := spelled
    have closedSign : Closed sign := by
      cases negative with
      | true =>
        subst spelledSign
        exact .cons (by decide) closed_nil
      | false =>
        obtain rfl | rfl := spelledSign
        · exact closed_nil
        · exact .cons (by decide) closed_nil
    have notBackslash : mark ≠ '\\' := by obtain rfl | rfl := isMark <;> decide
    exact .cons notBackslash (closedSign.append isDigits.closed)

theorem SpellsNumeral.closed {numeral : Numeral} {text : List Char} (spelled : SpellsNumeral numeral text) :
    Closed text := by
  obtain ⟨_, fraction, exponent, rfl, rfl, isWhole, spelledFraction, spelledExponent⟩ := spelled
  have minus : Closed (if numeral.negative then ['-'] else []) := by
    cases numeral.negative with
    | true => exact .cons (by decide) closed_nil
    | false => exact closed_nil
  exact minus.append (isWhole.1.closed.append (spelledFraction.closed.append spelledExponent.closed))

mutual

theorem Spells.refusable {halves : Halves} : ∀ (value : Json) (body : List Char),
    Spells halves value body → Refusable (Spells .refused value) body
  | .null, _, spelled | .bool true, _, spelled | .bool false, _, spelled => by
    subst spelled
    exact refusable_of_closed (closed_of_no_backslash (by decide)) rfl
  | .number _, _, spelled => refusable_of_closed (SpellsNumeral.closed spelled) spelled
  | .string _, _, spelled => SpellsString.refusable spelled
  | .array elements, _, ⟨inside, parts, spelled⟩ => by
    subst parts
    exact .brackets (by decide) (SpellsElements.refusable elements inside spelled)
      fun strict => ⟨inside, rfl, strict⟩
  | .object members, _, ⟨inside, parts, spelled⟩ => by
    subst parts
    exact .brackets (by decide) (SpellsMembers.refusable members inside spelled)
      fun strict => ⟨inside, rfl, strict⟩

theorem SpellsElements.refusable {halves : Halves} : ∀ (elements : List Json) (body : List Char),
    SpellsElements halves elements body → Refusable (SpellsElements .refused elements) body
  | [], _, isBlank => refusable_of_closed isBlank.closed isBlank
  | [element], _, spaced => Spaced.refusable spaced (Spells.refusable element)
  | element :: next :: rest, _, ⟨first, behind, parts, spaced, spelled⟩ => by
    subst parts
    exact .comma (Spaced.refusable spaced (Spells.refusable element))
      (SpellsElements.refusable (next :: rest) behind spelled)
      fun spaced strict => ⟨first, behind, rfl, spaced, strict⟩

theorem SpellsMembers.refusable {names : Halves} {mode : String → Halves} :
    ∀ (members : List (String × Json)) (body : List Char), SpellsMembers names mode members body →
      Refusable (SpellsMembers .refused (fun _ => .refused) members) body
  | [], _, isBlank => refusable_of_closed isBlank.closed isBlank
  | [(_, value)], _, spelled => SpellsMember.refusable spelled (Spells.refusable value)
  | (_, value) :: next :: rest, _, ⟨first, behind, parts, spelled, spelledRest⟩ => by
    subst parts
    exact .comma (SpellsMember.refusable spelled (Spells.refusable value))
      (SpellsMembers.refusable (next :: rest) behind spelledRest)
      fun spelled strict => ⟨first, behind, rfl, spelled, strict⟩

end

end Varsheet.Json
