/-! Structured values, as documents and requests hold them. -/
namespace TableScript

inductive Data where
  | null
  | flag (value : Bool)
  | number (written : String)
  | moment (written : String)
  | text (value : String)
  | list (items : List Data)
  | record (fields : List (String × Data))
  deriving Repr

end TableScript
