import StoreAdmin.Record.Shape

/-!
# Links

A link names a relation and an address.
-/

namespace StoreAdmin

open Entry

/-- A reference to a related document. It is also read from attributes. -/
structure Link where
  rel : String := ""
  href : String := ""
  deriving DecidableEq, Inhabited

instance : Model Link where
  heading := { name := "Link" }
  fields := .of [
    (text "rel").alsoNamed "@rel", (text "href").alsoNamed "@href"]
  toVal a := (a.rel, a.href, ())
  ofVal := fun (rel, href, _) =>
    { rel, href }
  ofVal_toVal _ := rfl

end StoreAdmin
