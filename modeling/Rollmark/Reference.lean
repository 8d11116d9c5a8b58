/-
Page references such as `B102`, `MA:23` or `B340`: a book, a page and the shop page of the book.
The campaign pages of the basic set come behind its characters, in the same file or in one of
their own.
-/
import Rollmark.Error
import Rollmark.Json
import Rollmark.Reference.Catalogue
import Rollmark.Sheet.Lookup

namespace Rollmark

/-- Whether the basic set is one file or two. -/
inductive BasicSet where
  | combined
  | separate
deriving DecidableEq

/-- A page of a book. -/
structure Reference where
  book : String
  page : Option Amount
  url : String
deriving DecidableEq

namespace Reference

/-- The last page of the characters in the basic set. -/
def lastCharacterPage : Amount := 336

/-- The book and the page that a link names: on both sides of its first colon, or else the link
without its digits and the link without its letters. -/
def bookAndPage (link : List Char) : List Char × Option Amount :=
  let cs := Text.trim link
  match cs.takeWhile (· != ':'), cs.dropWhile (· != ':') with
  | b :: book, ':' :: rest => (Text.trim (b :: book), leadingNumber? (String.ofList rest))
  | _, _ =>
    (Text.trim (cs.filter fun c => !c.isDigit),
      leadingNumber? (String.ofList (cs.filter fun c => !c.isAlpha)))

/-- Where a page of the basic set is found: two pages further in the one file, or from page two on
in the file of the campaigns. The move in the one file is a plain addition that nothing checks. It
makes sense up to page 2147483645: the last two amounts have no amount two pages further, their sum
overflows, and the stop at the limit only stands in for that. -/
def basicSetPage (basicSet : BasicSet) (page : Amount) : String × Amount :=
  if page ≤ lastCharacterPage then ("B", page)
  else
    match basicSet with
    | .combined => ("B", page + 2)
    | .separate => ("BX", page - (lastCharacterPage - 1))

/-- The page that a link names. -/
def ofLink (basicSet : BasicSet) (link : String) : Except Error Reference :=
  let (bookChars, page) := bookAndPage link.toList
  if bookChars.isEmpty then .error (.invalidReference link)
  else
    let (book, page) : String × Option Amount :=
      match String.ofList bookChars, page with
      | "B", some p => let (book, p') := basicSetPage basicSet p; (book, some p')
      | book, page => (book, page)
    .ok ⟨book, page, (shopPage? book).getD generalPage⟩

/-- `MA p.23`, or the book alone. -/
def text (r : Reference) : String :=
  match r.page with
  | some p => r.book ++ " p." ++ p.text
  | none => r.book

def toJson (r : Reference) : Json :=
  .object [("book", .string r.book), ("page", .ofOption (.integer ·.val) r.page),
    ("url", .string r.url)]

end Reference

end Rollmark
