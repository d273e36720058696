import IsolationGate.Proofs.EscapedText
import IsolationGate.Proofs.NonceAgreement
import IsolationGate.Text.Segments

/-!
# The tags of the page

The gateway's own page shows the path of its request, and a client can put anything into a path.
`piecesOf` reads a page as its tags, each with the text behind it; a tag goes from a `<` to the next
`>`. `pagePieces` are the pieces that the page is meant to have. The nonce stands in the tag of one
of them and the path in the text behind another, so both have to be free of `<` and `>` for the page
to be read as it was meant: the nonce because of its alphabet, the path because it is escaped.

All that is said of the page comes from this one description of it. Its tags do not depend on the
path, and the path is the text of its `code` element.

## Main results

* `piecesOf_pageOf` — plain pieces are read as they were written.
* `pageWith_eq_pageOf` — the pieces of the gateway's page.
* `piecesOf_demoPage` — what is read of the page, for every nonce and path.
* `demoPage_isInert` — escaping is safe, and the page shows the path and nothing else of it.
-/

namespace IsolationGate.Page

open Policy (Nonce)

/-! ## Angle brackets -/

/-- A character that opens or closes a tag. -/
def isAngle (c : Char) : Bool := c = '<' || c = '>'

/-- The characters of a text that open or close a tag, in their order. -/
def angles (s : String) : List Char := s.toList.filter isAngle

theorem angles_append (a b : String) : angles (a ++ b) = angles a ++ angles b := by
  rw [angles, String.toList_append, List.filter_append]
  rfl

/-- A text without angle brackets has neither of them. -/
theorem notMem_of_angles_eq_nil {s : String} (h : angles s = []) :
    '<' ∉ s.toList ∧ '>' ∉ s.toList := by
  have hnone := List.filter_eq_nil_iff.1 h
  exact ⟨fun hmem => hnone '<' hmem rfl, fun hmem => hnone '>' hmem rfl⟩

theorem isMarkup_of_isAngle {c : Char} (h : isAngle c = true) : isMarkup c = true := by
  rw [isAngle, Bool.or_eq_true] at h
  rcases h with hopens | hcloses
  · rw [of_decide_eq_true hopens]
    rfl
  · rw [of_decide_eq_true hcloses]
    rfl

/-- Angle brackets are escaped. -/
theorem angles_escape (s : String) : angles (escape s) = [] := by
  refine List.filter_eq_nil_iff.2 fun c hc hangle => ?_
  have hplain := isMarkup_eq_false_of_mem_escape hc
  rw [isMarkup_of_isAngle hangle] at hplain
  cases hplain

/-! ## Pieces of a page -/

/-- A tag, and the text behind it up to the next one. -/
structure Piece where
  tag : String
  text : String
  deriving Repr, DecidableEq

namespace Piece

/-- A piece behind its `<`. -/
def inner (p : Piece) : List Char := p.tag.toList ++ '>' :: p.text.toList

/-- A piece as it is written. -/
def written (p : Piece) : String := "<" ++ p.tag ++ ">" ++ p.text

/-- The piece that is read behind a `<`. Its tag ends at the first `>`. -/
def ofInner (cs : List Char) : Piece where
  tag := String.ofList (cs.takeWhile (· ≠ '>'))
  text := String.ofList (cs.dropWhile (· ≠ '>')).tail

/-- Neither the tag nor the text has an angle bracket in it. -/
def IsPlain (p : Piece) : Prop := angles p.tag = [] ∧ angles p.text = []

instance (p : Piece) : Decidable p.IsPlain :=
  inferInstanceAs (Decidable (angles p.tag = [] ∧ angles p.text = []))

theorem toList_written (p : Piece) : p.written.toList = '<' :: p.inner := by
  simp [written, inner]

theorem notMem_inner {p : Piece} (h : p.IsPlain) : '<' ∉ p.inner := by
  intro hmem
  rcases List.mem_append.1 hmem with htag | hrest
  · exact (notMem_of_angles_eq_nil h.1).1 htag
  · rcases List.mem_cons.1 hrest with hgt | htext
    · exact absurd hgt (by decide)
    · exact (notMem_of_angles_eq_nil h.2).1 htext

/-- **One piece is read as it was written.** -/
theorem ofInner_inner {p : Piece} (h : p.IsPlain) : ofInner p.inner = p := by
  have htag : ∀ c ∈ p.tag.toList, decide (c ≠ '>') = true := fun c hc =>
    decide_eq_true fun heq => (notMem_of_angles_eq_nil h.1).2 (heq ▸ hc)
  rw [ofInner, inner, List.takeWhile_append_of_pos htag, List.dropWhile_append_of_pos htag]
  simp

theorem angles_written {p : Piece} (h : p.IsPlain) : angles p.written = ['<', '>'] := by
  obtain ⟨htag, htext⟩ := h
  rw [written, angles_append, angles_append, angles_append, htag, htext]
  rfl

end Piece

/-- The page of these pieces. -/
def pageOf (pieces : List Piece) : String := String.join (pieces.map Piece.written)

/-- The pieces of a page. What stands before the first tag belongs to none. -/
def piecesOf (page : String) : List Piece :=
  (Text.segments '<' page.toList).tail.map Piece.ofInner

/-- The tags of a page. -/
def tagsOf (page : String) : List String := (piecesOf page).map Piece.tag

/-- The text of the first `code` element of a page, with its entities replaced. -/
def codeText? (page : String) : Option String :=
  ((piecesOf page).find? (·.tag = "code")).map fun p => String.ofList (decode p.text.toList)

theorem pageOf_cons (p : Piece) (pieces : List Piece) :
    pageOf (p :: pieces) = p.written ++ pageOf pieces := String.join_cons

theorem pageOf_append (a b : List Piece) : pageOf (a ++ b) = pageOf a ++ pageOf b := by
  rw [pageOf, List.map_append, String.join_append]
  rfl

/-- Plain pieces are cut where they begin, by induction on them. -/
theorem segments_pageOf {pieces : List Piece} (h : ∀ p ∈ pieces, p.IsPlain) :
    Text.segments '<' (pageOf pieces).toList = [] :: pieces.map Piece.inner := by
  induction pieces with
  | nil => rfl
  | cons p pieces ih =>
      obtain ⟨hp, hpieces⟩ := List.forall_mem_cons.1 h
      have hrest := Text.segments_append_of_not_mem (Piece.notMem_inner hp) (ih hpieces)
      rw [pageOf_cons, String.toList_append, Piece.toList_written, List.cons_append,
        Text.segments, if_pos rfl, hrest, List.append_nil]
      rfl

/-- **Plain pieces are read as they were written.** -/
theorem piecesOf_pageOf {pieces : List Piece} (h : ∀ p ∈ pieces, p.IsPlain) :
    piecesOf (pageOf pieces) = pieces := by
  rw [piecesOf, segments_pageOf h, List.tail_cons, List.map_map]
  exact (List.map_congr_left fun p hp => Piece.ofInner_inner (h p hp)).trans (List.map_id pieces)

/-- The only angle brackets of plain pieces are those around their tags. -/
theorem angles_pageOf {pieces : List Piece} (h : ∀ p ∈ pieces, p.IsPlain) :
    angles (pageOf pieces) = pieces.flatMap fun _ => ['<', '>'] := by
  induction pieces with
  | nil => rfl
  | cons p pieces ih =>
      obtain ⟨hp, hpieces⟩ := List.forall_mem_cons.1 h
      rw [pageOf_cons, angles_append, Piece.angles_written hp, ih hpieces, List.flatMap_cons]

/-! ## The pieces of the page -/

/-- The head of the page, up to its style. -/
def frontPieces : List Piece :=
  [⟨"!DOCTYPE html", "\n"⟩, ⟨"html", "\n"⟩, ⟨"head", "\n"⟩, ⟨"title", "isolation-gate"⟩,
    ⟨"/title", "\n"⟩]

/-- The style with a nonce. -/
def stylePiece (nonce : String) : Piece :=
  ⟨"style nonce=\"" ++ nonce ++ "\" type=\"text/css\"", demoStyle.body⟩

/-- What stands between the style and the path. -/
def middlePieces : List Piece :=
  [⟨"/style", "\n"⟩, ⟨"/head", "\n"⟩, ⟨"body", "\n"⟩, ⟨"h1", "isolation-gate"⟩, ⟨"/h1", "\n"⟩,
    ⟨"p", "Requested path: "⟩]

/-- The path. -/
def codePiece (path : String) : Piece := ⟨"code", escape path⟩

/-- What stands behind the path. -/
def backPieces : List Piece := [⟨"/code", ""⟩, ⟨"/p", "\n"⟩, ⟨"/body", "\n"⟩, ⟨"/html", "\n"⟩]

/-- The pieces of the page with a nonce, for a path. -/
def pagePieces (nonce path : String) : List Piece :=
  frontPieces ++ stylePiece nonce :: (middlePieces ++ codePiece path :: backPieces)

/-- **The page, written piece by piece.** -/
theorem pageWith_eq_pageOf (nonce path : String) :
    pageWith nonce path = pageOf (pagePieces nonce path) := by
  -- The fixed texts are compared as closed terms. Where a piece begins within one of them, in front
  -- of the nonce and on both sides of the path, it is put together from two.
  have hfront : pageOf frontPieces =
      "<!DOCTYPE html>\n<html>\n<head>\n<title>isolation-gate</title>\n" := by decide
  have hopening : "<" ++ "style nonce=\"" = "<style nonce=\"" := by decide
  have hclosing : "\" type=\"text/css\"" ++ ">" = "\" type=\"text/css\">" := by decide
  have hmiddle : pageOf middlePieces ++ ("<" ++ "code" ++ ">") = "</style>" ++
      "\n</head>\n<body>\n<h1>isolation-gate</h1>\n<p>Requested path: <code>" := by decide
  have hback : pageOf backPieces = "</code></p>\n</body>\n</html>\n" := by decide
  have hstyle : (stylePiece nonce).written =
      "<style nonce=\"" ++ nonce ++ "\" type=\"text/css\">" ++ demoStyle.body := by
    rw [← hopening, ← hclosing]
    simp only [stylePiece, Piece.written, String.append_assoc]
  have hcode : pageOf middlePieces ++ (codePiece path).written = "</style>" ++
      ("\n</head>\n<body>\n<h1>isolation-gate</h1>\n<p>Requested path: <code>" ++ escape path) :=
    calc pageOf middlePieces ++ (codePiece path).written
      _ = pageOf middlePieces ++ ("<" ++ "code" ++ ">") ++ escape path :=
        (String.append_assoc ..).symm
      _ = "</style>" ++ _ ++ escape path := congrArg (· ++ escape path) hmiddle
      _ = _ := String.append_assoc ..
  calc pageWith nonce path
      = pageOf frontPieces ++ ((stylePiece nonce).written ++
          (pageOf middlePieces ++ (codePiece path).written ++ pageOf backPieces)) := by
        rw [hfront, hstyle, hcode, hback]
        unfold pageWith
        simp only [String.append_assoc]
    _ = pageOf (pagePieces nonce path) := by
        rw [pagePieces, pageOf_append, pageOf_cons, pageOf_append, pageOf_cons,
          String.append_assoc]

theorem isPlain_of_mem_pagePieces {nonce : String} (h : angles nonce = []) (path : String) :
    ∀ p ∈ pagePieces nonce path, p.IsPlain := by
  have hfront : ∀ p ∈ frontPieces, p.IsPlain := by decide
  have hmiddle : ∀ p ∈ middlePieces, p.IsPlain := by decide
  have hback : ∀ p ∈ backPieces, p.IsPlain := by decide
  have hcss : angles demoStyle.body = [] := by decide
  have htag : angles "code" = [] := by decide
  have hstyle : (stylePiece nonce).IsPlain := by
    refine ⟨?_, hcss⟩
    rw [stylePiece, angles_append, angles_append, h]
    rfl
  have hcode : (codePiece path).IsPlain := ⟨htag, angles_escape path⟩
  rw [pagePieces, List.forall_mem_append, List.forall_mem_cons, List.forall_mem_append,
    List.forall_mem_cons]
  exact ⟨hfront, hstyle, hmiddle, hcode, hback⟩

/-- The nonce as it is shown, which is empty without a content policy. -/
def nonceText (nonce : Option Nonce) : String := (nonce.map fun n => n.text).getD ""

/-- A nonce can stand in a tag. -/
theorem angles_nonceText (nonce : Option Nonce) : angles (nonceText nonce) = [] := by
  rw [nonceText, ← escape_nonceText]
  exact angles_escape _

/-- **What is read of the page.** -/
theorem piecesOf_demoPage (nonce : Option Nonce) (path : String) :
    piecesOf (demoPage nonce path) = pagePieces (nonceText nonce) path := by
  rw [demoPage_eq_pageWith, pageWith_eq_pageOf]
  exact piecesOf_pageOf (isPlain_of_mem_pagePieces (angles_nonceText nonce) path)

/-- The `code` element of the page is the one with the path. -/
theorem find?_pagePieces (nonce path : String) :
    (pagePieces nonce path).find? (·.tag = "code") = some (codePiece path) := by
  have hfront : frontPieces.find? (·.tag = "code") = none := by decide
  have hmiddle : middlePieces.find? (·.tag = "code") = none := by decide
  have hstyle : (stylePiece nonce).tag ≠ "code" := by
    intro h
    have hlength := congrArg String.length h
    rw [stylePiece, String.length_append, String.length_append] at hlength
    have hopening : "code".length < "style nonce=\"".length := by decide
    omega
  rw [pagePieces, List.find?_append, hfront, Option.none_or, List.find?_cons_of_neg,
    List.find?_append, hmiddle, Option.none_or, List.find?_cons_of_pos]
  · rfl
  · simpa using hstyle

theorem codeText?_demoPage (nonce : Option Nonce) (path : String) :
    codeText? (demoPage nonce path) = some path := by
  rw [codeText?, piecesOf_demoPage, find?_pagePieces, Option.map_some, codePiece, decode_escape,
    String.ofList_toList]

/-! ## The page as a whole -/

/-- A page that shows a path and has nothing else of it: the path stands in one place, escaped, the
nonce stands in the style as it is, and all else is fixed. -/
structure IsInert (page : Option Nonce → String → String) : Prop where
  parts : ∃ front middle back : String, ∀ nonce path, page nonce path =
    front ++ ("<style nonce=\"" ++ nonceText nonce ++ "\" type=\"text/css\">" ++ demoStyle.body ++
      "</style>") ++ middle ++ escape path ++ back
  angles : ∃ fixed, ∀ nonce path, angles (page nonce path) = fixed
  /-- No path adds a tag or takes one away, and in the tags there is nothing of it. -/
  tags : ∃ before behind, ∀ nonce path, tagsOf (page nonce path) =
    before ++ ["style nonce=\"" ++ nonceText nonce ++ "\" type=\"text/css\""] ++ behind
  path : ∀ nonce path, codeText? (page nonce path) = some path

/-- **The page cannot be changed by the path it shows.** Escaping is safe for every text. The page
is a fixed text around the style with its nonce and the escaped path, so its angle brackets are the
same for all nonces and paths, its tags are the same for all paths, and the path can be read off
it. -/
theorem demoPage_isInert : IsSafeEscaping escape ∧ IsInert demoPage := by
  refine ⟨isSafeEscaping_escape, ?_, ?_, ?_, codeText?_demoPage⟩
  · exact ⟨_, _, _, demoPage_eq_pageWith⟩
  · refine ⟨(pagePieces "" "").flatMap fun _ => ['<', '>'], fun nonce path => ?_⟩
    rw [demoPage_eq_pageWith, pageWith_eq_pageOf]
    exact angles_pageOf (isPlain_of_mem_pagePieces (angles_nonceText nonce) path)
  · refine ⟨frontPieces.map Piece.tag, (middlePieces ++ codePiece "" :: backPieces).map Piece.tag,
      fun nonce path => ?_⟩
    rw [tagsOf, piecesOf_demoPage]
    rfl

end IsolationGate.Page
