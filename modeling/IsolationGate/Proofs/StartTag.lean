import IsolationGate.Proofs.EscapedText
import Mathlib.Data.List.Induction

/-!
# Style elements are read as they were built

A style element is built in steps, and a browser reads its start tag character by character.
`Reading.next` is this reading for tags whose values stand between double quotes, and it takes the
first `>` for the end of the tag. Anything that is not of this form fails: a value that is not
quoted, a character that cannot be in a name, a tag that ends within a value.

What comes of the steps is said twice. `IsBuiltFrom` reads it off the list of steps: the last step
for a field counts, and attributes are kept in their order. It holds of no steps and is preserved by
each. The tag that is read is the one that `shownAttributes` makes of the same list.

## Main results

* `read_attributeText`, `read_attributes` — one attribute and any number of them are read back.
* `readStartTag_render` — a style element is read as its own attributes and body.
* `isBuiltFrom_build` — what the steps make of an element.
* `StyleTag.readsAsBuilt` — the two together, for every sequence of steps.
-/

namespace IsolationGate.Page

/-! ## Reading a start tag -/

/-- A blank between the attributes of a tag. -/
def isTagBlank (c : Char) : Bool := "\t\n\x0c\r ".toList.contains c

/-- A character of a name. -/
def isNameChar (c : Char) : Bool := !(isTagBlank c || isMarkup c || c = '=' || c = '/')

/-- The name of an attribute. -/
def IsAttributeName (name : String) : Prop := name ≠ "" ∧ ∀ c ∈ name.toList, isNameChar c = true

instance (name : String) : Decidable (IsAttributeName name) :=
  decidable_of_iff (name ≠ "" ∧ name.toList.all isNameChar = true)
    (and_congr_right fun _ => List.all_eq_true)

/-- The name of an element and its attributes, in their order. -/
structure StartTag where
  name : String
  attributes : List (String × String) := []
  deriving Repr, DecidableEq

/-- The tag with one more attribute, whose value is read with its entities replaced. -/
def StartTag.put (tag : StartTag) (name value : List Char) : StartTag :=
  { tag with attributes := tag.attributes ++ [(String.ofList name, String.ofList (decode value))] }

/-- How far a start tag has been read. -/
inductive Reading where
  | nothing
  | inTagName (name : List Char)
  | betweenAttributes (tag : StartTag)
  | inName (tag : StartTag) (name : List Char)
  | behindEquals (tag : StartTag) (name : List Char)
  | inValue (tag : StartTag) (name value : List Char)
  | behindValue (tag : StartTag)
  /-- The tag has ended, and this stands behind it. -/
  | ended (tag : StartTag) (rest : List Char)
  | failed
  deriving DecidableEq

namespace Reading

/-- One more character. -/
def next : Reading → Char → Reading
  | nothing, c => if c = '<' then inTagName [] else failed
  | inTagName name, c =>
      if isTagBlank c then betweenAttributes { name := String.ofList name }
      else if c = '>' then ended { name := String.ofList name } []
      else if isNameChar c then inTagName (name ++ [c])
      else failed
  | betweenAttributes tag, c =>
      if isTagBlank c then betweenAttributes tag
      else if c = '>' then ended tag []
      else if isNameChar c then inName tag [c]
      else failed
  | inName tag name, c =>
      if c = '=' then behindEquals tag name
      else if isNameChar c then inName tag (name ++ [c])
      else failed
  | behindEquals tag name, c => if c = '\x22' then inValue tag name [] else failed
  | inValue tag name value, c =>
      if c = '\x22' then behindValue (tag.put name value)
      else if c = '>' then failed
      else inValue tag name (value ++ [c])
  | behindValue tag, c =>
      if isTagBlank c then betweenAttributes tag
      else if c = '>' then ended tag []
      else failed
  | ended tag rest, c => ended tag (rest ++ [c])
  | failed, _ => failed

/-- More characters. -/
def read (r : Reading) (cs : List Char) : Reading := cs.foldl next r

theorem read_append (r : Reading) (a b : List Char) : r.read (a ++ b) = (r.read a).read b :=
  List.foldl_append

theorem read_cons (r : Reading) (c : Char) (cs : List Char) :
    r.read (c :: cs) = (r.next c).read cs := rfl

/-- Characters that are only put behind what has been read, by induction on them. -/
theorem read_of_next {p : Char → Prop} (place : List Char → Reading)
    (hnext : ∀ before c, p c → (place before).next c = place (before ++ [c])) (before : List Char)
    {cs : List Char} (h : ∀ c ∈ cs, p c) : (place before).read cs = place (before ++ cs) := by
  induction cs generalizing before with
  | nil => rw [List.append_nil]; rfl
  | cons c cs ih =>
      obtain ⟨hc, hcs⟩ := List.forall_mem_cons.1 h
      rw [read_cons, hnext before c hc, ih _ hcs, List.append_assoc]
      rfl

/-- Nothing in a name ends it. -/
theorem ne_of_isNameChar {c : Char} (h : isNameChar c = true) :
    isTagBlank c = false ∧ c ≠ '>' ∧ c ≠ '=' := by
  simp only [isNameChar, isMarkup, Bool.not_eq_true', Bool.or_eq_false_iff,
    decide_eq_false_iff_not] at h
  obtain ⟨⟨⟨hblank, ⟨⟨-, hgt⟩, -⟩, -⟩, hequals⟩, -⟩ := h
  exact ⟨hblank, hgt, hequals⟩

theorem read_inName (tag : StartTag) (name : List Char) {cs : List Char}
    (h : ∀ c ∈ cs, isNameChar c = true) :
    (inName tag name).read cs = inName tag (name ++ cs) := by
  refine read_of_next (inName tag) (fun before c hc => ?_) name h
  rw [next, if_neg (ne_of_isNameChar hc).2.2, if_pos hc]

/-- A value goes on as long as there is no markup. -/
theorem read_inValue (tag : StartTag) (name value : List Char) {cs : List Char}
    (h : ∀ c ∈ cs, isMarkup c = false) :
    (inValue tag name value).read cs = inValue tag name (value ++ cs) := by
  refine read_of_next (inValue tag name) (fun before c hc => ?_) value h
  simp only [isMarkup, Bool.or_eq_false_iff, decide_eq_false_iff_not] at hc
  obtain ⟨⟨⟨-, hgt⟩, hquote⟩, -⟩ := hc
  rw [next, if_neg hquote, if_neg hgt]

/-- Behind the tag there is no reading any more. -/
theorem read_ended (tag : StartTag) (rest cs : List Char) :
    (ended tag rest).read cs = ended tag (rest ++ cs) :=
  read_of_next (p := fun _ => True) (ended tag) (fun _ _ _ => rfl) rest fun _ _ => trivial

/-- What a reading says of the characters before it: there is no `>` among them until the tag ends,
and the first one ends it. -/
def Covers : Reading → List Char → Prop
  | ended _ rest, cs => ∃ head, '>' ∉ head ∧ cs = head ++ '>' :: rest
  | failed, _ => True
  | _, cs => '>' ∉ cs

/-- One more character: behind the tag it changes nothing, and before that a `>` ends the tag where
one can end and fails everywhere else. -/
theorem Covers.next {r : Reading} {cs : List Char} (h : r.Covers cs) (c : Char) :
    (r.next c).Covers (cs ++ [c]) := by
  have hended (tag : StartTag) (rest : List Char) (h : (ended tag rest).Covers cs) :
      (ended tag (rest ++ [c])).Covers (cs ++ [c]) := by
    obtain ⟨head, hhead, rfl⟩ := h
    exact ⟨head, hhead, List.append_assoc head ('>' :: rest) [c]⟩
  by_cases hgt : c = '>'
  · subst hgt
    cases r with
    | ended tag rest => exact hended tag rest h
    | inTagName _ | betweenAttributes _ | behindValue _ => exact ⟨cs, h, rfl⟩
    | nothing | inName _ _ | behindEquals _ _ | inValue _ _ _ | failed => trivial
  · have hopen : '>' ∉ cs → '>' ∉ cs ++ [c] := fun hcs hmem =>
      (List.mem_append.1 hmem).elim hcs fun hc => hgt (List.mem_singleton.1 hc).symm
    cases r with
    | ended tag rest => exact hended tag rest h
    | failed => trivial
    | nothing | inTagName _ | betweenAttributes _ | inName _ _ | behindEquals _ _ | inValue _ _ _
    | behindValue _ =>
        rw [Reading.next]
        grind [Covers]

/-- **The first `>` of a text ends its tag.** -/
theorem covers_read (cs : List Char) : (nothing.read cs).Covers cs := by
  induction cs using List.reverseRecOn with
  | nil => exact List.not_mem_nil
  | append_singleton cs c ih =>
      rw [read_append]
      exact ih.next c

/-- **One attribute is read back**, wherever a blank leads to the next attribute. -/
theorem read_attributeText {r : Reading} {tag : StartTag}
    (hr : r.next ' ' = betweenAttributes tag) {name : String} (hname : IsAttributeName name)
    (value : String) :
    r.read (StyleTag.attributeText name value).toList =
      behindValue { tag with attributes := tag.attributes ++ [(name, value)] } := by
  obtain ⟨hne, hchars⟩ := hname
  obtain ⟨first, others, hfirst⟩ := List.exists_cons_of_ne_nil
    (fun hnil => hne (String.toList_eq_nil_iff.1 hnil) : name.toList ≠ [])
  rw [hfirst] at hchars
  have hstart := hchars first List.mem_cons_self
  obtain ⟨hblank, hgt, -⟩ := ne_of_isNameChar hstart
  have hnext : (betweenAttributes tag).next first = inName tag [first] := by
    rw [next, hblank, if_neg Bool.false_ne_true, if_neg hgt, if_pos hstart]
  have htext : (StyleTag.attributeText name value).toList =
      ' ' :: first :: (others ++ ('=' :: '\x22' :: ((escape value).toList ++ ['\x22']))) := by
    simp [StyleTag.attributeText, hfirst]
  have hothers : ∀ c ∈ others, isNameChar c = true := fun c hc =>
    hchars c (List.mem_cons_of_mem first hc)
  have hvalue : ∀ c ∈ (escape value).toList, isMarkup c = false := fun _ hc =>
    isMarkup_eq_false_of_mem_escape hc
  rw [htext, read_cons, hr, read_cons, hnext, read_append, read_inName tag [first] hothers,
    read_cons, read_cons, read_append]
  show ((inValue tag (first :: others) []).read (escape value).toList).read ['\x22'] = _
  rw [read_inValue _ _ _ hvalue, List.nil_append]
  show behindValue (tag.put (first :: others) (escape value).toList) = _
  rw [StartTag.put, decode_escape, ← hfirst, String.ofList_toList, String.ofList_toList]

/-- **Any number of attributes are read back**, in their order. -/
theorem read_attributes (tag : StartTag) {attributes : List (String × String)}
    (h : ∀ a ∈ attributes, IsAttributeName a.1) :
    (behindValue tag).read
        (attributes.flatMap fun a => (StyleTag.attributeText a.1 a.2).toList) =
      behindValue { tag with attributes := tag.attributes ++ attributes } := by
  induction attributes generalizing tag with
  | nil => simp [read]
  | cons a attributes ih =>
      rw [List.flatMap_cons, read_append,
        read_attributeText rfl (h a List.mem_cons_self),
        ih _ fun other hother => h other (List.mem_cons_of_mem a hother), List.append_assoc]
      rfl

end Reading

/-- The start tag at the beginning of a text, and what stands behind it. -/
def readStartTag (s : String) : Option (StartTag × String) :=
  match Reading.nothing.read s.toList with
  | .ended tag rest => some (tag, String.ofList rest)
  | _ => none

/-- **A tag that is read ends at the first `>` of its text.** -/
theorem exists_of_readStartTag_eq_some {s rest : String} {tag : StartTag}
    (h : readStartTag s = some (tag, rest)) :
    ∃ head : String, s = head ++ ">" ++ rest ∧ '>' ∉ head.toList := by
  have hcovers := Reading.covers_read s.toList
  unfold readStartTag at h
  split at h
  · next tag' rest' hread =>
      rw [hread] at hcovers
      obtain ⟨head, hhead, htext⟩ := hcovers
      obtain ⟨-, rfl⟩ := Prod.mk.inj (Option.some.inj h)
      refine ⟨String.ofList head, String.toList_inj.1 ?_, by rwa [String.toList_ofList]⟩
      simp [htext]
  · cases h

/-! ## One element -/

namespace StyleTag

/-- What is written of an element. -/
theorem toList_render (tag : StyleTag) (nonce : Option String) :
    (tag.render nonce).toList =
      "<style".toList ++
        (((tag.allAttributes nonce).flatMap fun a => (attributeText a.1 a.2).toList) ++
          '>' :: (tag.body ++ "</style>").toList) := by
  simp [render, List.flatMap_map]

/-- The names of the attributes that every element has are names. -/
theorem isAttributeName_of_mem {tag : StyleTag}
    (h : ∀ a ∈ tag.attributes, IsAttributeName a.1) (nonce : Option String) :
    ∀ a ∈ tag.allAttributes nonce, IsAttributeName a.1 := by
  have hown : IsAttributeName "nonce" ∧ IsAttributeName "type" ∧ IsAttributeName "media" ∧
      IsAttributeName "title" := by decide
  obtain ⟨hnonce, htype, hmedia, htitle⟩ := hown
  intro a ha
  simp only [allAttributes, List.mem_cons, List.mem_append, Option.mem_toList,
    Option.map_eq_some_iff] at ha
  rcases ha with rfl | ((⟨_, -, rfl⟩ | ⟨_, -, rfl⟩) | ⟨_, -, rfl⟩) | ha
  · exact hnonce
  · exact htype
  · exact hmedia
  · exact htitle
  · exact h a ha

/-- **A style element is read as its own attributes and body.** -/
theorem readStartTag_render {tag : StyleTag} (h : ∀ a ∈ tag.attributes, IsAttributeName a.1)
    (nonce : Option String) :
    readStartTag (tag.render nonce) =
      some ({ name := "style", attributes := tag.allAttributes nonce },
        tag.body ++ "</style>") := by
  have hnames := isAttributeName_of_mem h nonce
  obtain ⟨first, others, hfirst⟩ : ∃ first others, tag.allAttributes nonce = first :: others :=
    ⟨_, _, rfl⟩
  rw [hfirst] at hnames
  obtain ⟨hname, hothers⟩ := List.forall_mem_cons.1 hnames
  have hopened : Reading.nothing.read "<style".toList = .inTagName "style".toList := by decide
  have hblank : (Reading.inTagName "style".toList).next ' ' =
      .betweenAttributes { name := "style" } := by decide
  have hattributes : Reading.nothing.read ("<style".toList ++
      ((first :: others).flatMap fun a => (attributeText a.1 a.2).toList)) =
        .behindValue { name := "style", attributes := first :: others } := by
    rw [Reading.read_append, hopened, List.flatMap_cons, Reading.read_append,
      Reading.read_attributeText hblank hname, Reading.read_attributes _ hothers]
    rfl
  have hread : Reading.nothing.read (tag.render nonce).toList =
      .ended { name := "style", attributes := first :: others }
        (tag.body ++ "</style>").toList := by
    rw [toList_render, hfirst, ← List.append_assoc, Reading.read_append, hattributes,
      Reading.read_cons]
    exact Reading.read_ended _ [] _
  rw [readStartTag, hread, hfirst]
  simp only [String.ofList_toList]

/-! ## Building an element -/

/-- A part of an element that a step is about. -/
inductive Part where
  | type
  | media
  | title
  | attributes
  | body
  deriving Repr, DecidableEq

/-- A step in which an element is built. -/
inductive Step where
  | type (value : String)
  | media (value : String)
  | title (value : String)
  | extra (name value : String)
  | body (css : String)
  deriving Repr, DecidableEq

/-- The part that a step is about. -/
def Step.part : Step → Part
  | .type _ => .type
  | .media _ => .media
  | .title _ => .title
  | .extra _ _ => .attributes
  | .body _ => .body

/-- The text that a step gives to its part. -/
def Step.value : Step → String
  | .type value => value
  | .media value => value
  | .title value => value
  | .extra _ value => value
  | .body css => css

/-- The attribute that a step adds. -/
def Step.attribute? : Step → Option (String × String)
  | .extra name value => some (name, value)
  | _ => none

/-- A step without its text: its part, and the name of an attribute that it adds. -/
def Step.label (step : Step) : Part × Option String := (step.part, step.attribute?.map Prod.fst)

/-- The element after a step. -/
def take (tag : StyleTag) : Step → StyleTag
  | .type value => tag.withType value
  | .media value => tag.withMedia value
  | .title value => tag.withTitle value
  | .extra name value => tag.withAttribute name value
  | .body css => tag.withBody css

/-- The element that is built in these steps. -/
def build (steps : List Step) : StyleTag := steps.foldl take {}

/-- The text that the last step for a part gives. -/
def lastValue (part : Part) (steps : List Step) : Option String :=
  ((steps.filter fun step => step.part = part).getLast?).map Step.value

/-- The attributes that steps add, in their order. -/
def addedAttributes (steps : List Step) : List (String × String) := steps.filterMap Step.attribute?

/-- The attributes of an element that is built in these steps, as they are shown. -/
def shownAttributes (steps : List Step) (nonce : Option String) : List (String × String) :=
  [("nonce", nonce.getD "")] ++ ((lastValue .type steps).map fun value => ("type", value)).toList ++
    ((lastValue .media steps).map fun value => ("media", value)).toList ++
    ((lastValue .title steps).map fun value => ("title", value)).toList ++ addedAttributes steps

/-- The body of such an element. -/
def shownBody (steps : List Step) : String := (lastValue .body steps).getD ""

/-- What the steps make of an element: for each part but the attributes the last one counts. -/
structure IsBuiltFrom (steps : List Step) (tag : StyleTag) : Prop where
  type : tag.type = lastValue .type steps
  media : tag.media = lastValue .media steps
  title : tag.title = lastValue .title steps
  attributes : tag.attributes = addedAttributes steps
  body : tag.body = shownBody steps

/-- A step gives its part its own text. -/
theorem lastValue_concat_self (steps : List Step) (step : Step) :
    lastValue step.part (steps ++ [step]) = some step.value := by
  simp [lastValue, List.filter_append]

/-- It leaves the other parts alone. -/
theorem lastValue_concat_of_ne {part : Part} {step : Step} (h : step.part ≠ part)
    (steps : List Step) : lastValue part (steps ++ [step]) = lastValue part steps := by
  simp [lastValue, List.filter_append, h]

theorem addedAttributes_concat (steps : List Step) (step : Step) :
    addedAttributes (steps ++ [step]) = addedAttributes steps ++ step.attribute?.toList := by
  rw [addedAttributes, addedAttributes, List.filterMap_append]
  cases step <;> rfl

/-- **What one step preserves.** It sets its own part, or adds an attribute. -/
theorem IsBuiltFrom.take {steps : List Step} {tag : StyleTag} (h : IsBuiltFrom steps tag)
    (step : Step) : IsBuiltFrom (steps ++ [step]) (tag.take step) := by
  have hset := (lastValue_concat_self steps step).symm
  have hkept (part : Part) (hne : step.part ≠ part) :
      lastValue part steps = lastValue part (steps ++ [step]) :=
    (lastValue_concat_of_ne hne steps).symm
  have hbody (hne : step.part ≠ .body) : tag.body = shownBody (steps ++ [step]) :=
    h.body.trans (congrArg (fun value => value.getD "") (hkept .body hne))
  have hadded (hnone : step.attribute? = none) :
      tag.attributes = addedAttributes (steps ++ [step]) := by
    rw [addedAttributes_concat, hnone, h.attributes]
    exact (List.append_nil _).symm
  cases step with
  | type value =>
      exact ⟨hset, h.media.trans (hkept .media nofun), h.title.trans (hkept .title nofun),
        hadded rfl, hbody nofun⟩
  | media value =>
      exact ⟨h.type.trans (hkept .type nofun), hset, h.title.trans (hkept .title nofun),
        hadded rfl, hbody nofun⟩
  | title value =>
      exact ⟨h.type.trans (hkept .type nofun), h.media.trans (hkept .media nofun), hset,
        hadded rfl, hbody nofun⟩
  | extra name value =>
      refine ⟨h.type.trans (hkept .type nofun), h.media.trans (hkept .media nofun),
        h.title.trans (hkept .title nofun), ?_, hbody nofun⟩
      rw [addedAttributes_concat, ← h.attributes]
      rfl
  | body css =>
      exact ⟨h.type.trans (hkept .type nofun), h.media.trans (hkept .media nofun),
        h.title.trans (hkept .title nofun), hadded rfl,
        congrArg (fun value => value.getD "") hset⟩

theorem build_concat (steps : List Step) (step : Step) :
    build (steps ++ [step]) = (build steps).take step := by
  rw [build, build, List.foldl_append]
  rfl

/-- **What steps make of an element**, by induction on the last one. -/
theorem isBuiltFrom_build (steps : List Step) : IsBuiltFrom steps (build steps) := by
  induction steps using List.reverseRecOn with
  | nil => exact ⟨rfl, rfl, rfl, rfl, rfl⟩
  | append_singleton steps step ih =>
      rw [build_concat]
      exact ih.take step

theorem allAttributes_build (steps : List Step) (nonce : Option String) :
    (build steps).allAttributes nonce = shownAttributes steps nonce := by
  have h := isBuiltFrom_build steps
  rw [allAttributes, h.type, h.media, h.title, h.attributes, shownAttributes]
  simp

/-- What is read of an element that is built in steps. -/
theorem readStartTag_build {steps : List Step}
    (h : ∀ a ∈ addedAttributes steps, IsAttributeName a.1) (nonce : Option String) :
    readStartTag ((build steps).render nonce) =
      some ({ name := "style", attributes := shownAttributes steps nonce },
        shownBody steps ++ "</style>") := by
  rw [readStartTag_render ((isBuiltFrom_build steps).attributes ▸ h), allAttributes_build,
    (isBuiltFrom_build steps).body]

/-! ## What does not matter -/

/-- The names of the attributes that are shown, as far as the labels of the steps tell them. -/
def shownNames (labels : List (Part × Option String)) : List String :=
  ["nonce"] ++ (if labels.any (·.1 = .type) then ["type"] else []) ++
    (if labels.any (·.1 = .media) then ["media"] else []) ++
    (if labels.any (·.1 = .title) then ["title"] else []) ++ labels.filterMap Prod.snd

theorem isSome_lastValue (part : Part) (steps : List Step) :
    (lastValue part steps).isSome = (steps.map Step.label).any (·.1 = part) := by
  induction steps using List.reverseRecOn with
  | nil => rfl
  | append_singleton steps step ih =>
      rw [List.map_append, List.any_append, ← ih]
      by_cases hpart : step.part = part
      · subst hpart
        rw [lastValue_concat_self]
        simp [Step.label]
      · rw [lastValue_concat_of_ne hpart]
        simp [hpart, Step.label]

theorem map_fst_addedAttributes (steps : List Step) :
    (addedAttributes steps).map Prod.fst = (steps.map Step.label).filterMap Prod.snd := by
  rw [addedAttributes, List.map_filterMap, List.filterMap_map]
  rfl

/-- **The names that are shown depend on the labels alone**: no text adds one. -/
theorem map_fst_shownAttributes (steps : List Step) (nonce : Option String) :
    (shownAttributes steps nonce).map Prod.fst = shownNames (steps.map Step.label) := by
  have hone (name : String) (part : Part) :
      ((lastValue part steps).map fun value => (name, value)).toList.map Prod.fst =
        if (steps.map Step.label).any (·.1 = part) then [name] else [] := by
    rw [← isSome_lastValue]
    cases lastValue part steps <;> rfl
  simp only [shownAttributes, List.map_append, hone, map_fst_addedAttributes, shownNames]
  rfl

/-- **Steps for different parts commute.** -/
theorem take_comm (tag : StyleTag) {s t : Step} (h : s.part ≠ t.part) :
    (tag.take s).take t = (tag.take t).take s := by
  cases s with
  | type _ => cases t with
    | type _ => exact absurd rfl h
    | _ => rfl
  | media _ => cases t with
    | media _ => exact absurd rfl h
    | _ => rfl
  | title _ => cases t with
    | title _ => exact absurd rfl h
    | _ => rfl
  | extra _ _ => cases t with
    | extra _ _ => exact absurd rfl h
    | _ => rfl
  | body _ => cases t with
    | body _ => exact absurd rfl h
    | _ => rfl

/-- **A style element is read as it was built.** Its tag has the nonce, then type, media and title
as far as there was a step for them, each with its last text, and then the attributes that were
added, in their order; behind the tag stand the last body and the end of the element. The tag ends
at the first `>` there is. Other texts in the same steps do not change which attributes there are,
and steps for different parts commute. -/
theorem readsAsBuilt (steps : List Step)
    (h : ∀ a ∈ addedAttributes steps, IsAttributeName a.1) (nonce : Option String) :
    readStartTag ((build steps).render nonce) =
        some ({ name := "style", attributes := shownAttributes steps nonce },
          shownBody steps ++ "</style>") ∧
      (∃ head : String, (build steps).render nonce =
          head ++ ">" ++ (shownBody steps ++ "</style>") ∧ '>' ∉ head.toList) ∧
      (∀ others nonce', others.map Step.label = steps.map Step.label →
        (readStartTag ((build others).render nonce')).map (fun r => r.1.attributes.map Prod.fst) =
          some ((shownAttributes steps nonce).map Prod.fst)) ∧
      ∀ before s t after, steps = before ++ s :: t :: after → s.part ≠ t.part →
        build (before ++ t :: s :: after) = build steps := by
  have hread := readStartTag_build h nonce
  refine ⟨hread, exists_of_readStartTag_eq_some hread, ?_, ?_⟩
  · intro others nonce' hlabels
    have hnames : ∀ a ∈ addedAttributes others, IsAttributeName a.1 := by
      rw [← List.forall_mem_map (f := Prod.fst) (P := IsAttributeName),
        map_fst_addedAttributes] at h ⊢
      rwa [hlabels]
    rw [readStartTag_build hnames, Option.map_some, map_fst_shownAttributes,
      map_fst_shownAttributes, hlabels]
  · rintro before s t after rfl hne
    rw [build, build, List.foldl_append, List.foldl_append]
    exact congrArg (fun tag => after.foldl take tag) (take_comm _ hne).symm

/-- Steps whose texts have a quote, a tag, an entity and another attribute in them, and a title that
is given twice. -/
def awkwardSteps : List Step :=
  [.title "first", .extra "data-a" "&lt;", .type "text/css", .title "\"><script>",
    .extra "data-a" "x\" onload=\"y", .body "a > b"]

theorem readsAsBuilt_awkwardSteps :
    (∀ a ∈ addedAttributes awkwardSteps, IsAttributeName a.1) ∧
      readStartTag ((build awkwardSteps).render (some "n\"&")) =
        some ({ name := "style", attributes := [("nonce", "n\"&"), ("type", "text/css"),
          ("title", "\"><script>"), ("data-a", "&lt;"), ("data-a", "x\" onload=\"y")] },
            "a > b</style>") ∧
      build [.title "first", .extra "data-a" "&lt;", .title "\"><script>", .type "text/css",
        .extra "data-a" "x\" onload=\"y", .body "a > b"] = build awkwardSteps := by
  have hnames : ∀ a ∈ addedAttributes awkwardSteps, IsAttributeName a.1 := by decide
  obtain ⟨hread, -, -, hcomm⟩ := readsAsBuilt awkwardSteps hnames (some "n\"&")
  exact ⟨hnames, hread.trans (by decide),
    hcomm [.title "first", .extra "data-a" "&lt;"] (.type "text/css") (.title "\"><script>")
      _ rfl (by decide)⟩

end StyleTag

end IsolationGate.Page
