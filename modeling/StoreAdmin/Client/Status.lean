import StoreAdmin.Number.Decimal

/-!
# Status codes

The codes with which failed calls are answered, and their usual names.
-/

namespace StoreAdmin.Status

/-- The code that refuses the credentials of a request. -/
def refused : Nat := 401

/-- The names of the codes of failure, in lower case. -/
def names : List (Nat × String) :=
  [(400, "bad request"), (401, "unauthorized"), (402, "payment required"), (403, "forbidden"),
   (404, "not found"), (405, "method not allowed"), (406, "not acceptable"),
   (407, "proxy authentication required"), (408, "request timeout"), (409, "conflict"),
   (410, "gone"), (411, "length required"), (412, "precondition failed"),
   (413, "payload too large"), (414, "uri too long"), (415, "unsupported media type"),
   (416, "range not satisfiable"), (417, "expectation failed"), (418, "i'm a teapot"),
   (421, "misdirected request"), (422, "unprocessable entity"), (423, "locked"),
   (424, "failed dependency"), (425, "too early"), (426, "upgrade required"),
   (428, "precondition required"), (429, "too many requests"),
   (431, "request header fields too large"), (451, "unavailable for legal reasons"),
   (500, "internal server error"), (501, "not implemented"), (502, "bad gateway"),
   (503, "service unavailable"), (504, "gateway timeout"), (505, "http version not supported"),
   (506, "variant also negotiates"), (507, "insufficient storage"), (508, "loop detected"),
   (510, "not extended"), (511, "network authentication required")]

/-- A code in words: with its name, or as a bare number. -/
def text (status : Nat) : String :=
  let number := String.ofList (Decimal.natText status)
  match names.lookup status with
  | some name => number ++ " " ++ name
  | none => "status code " ++ number

end StoreAdmin.Status
