import Reckon.Binary64.Basic

set_option autoImplicit false

namespace Reckon

inductive Json where
  | null
  | bool (value : Bool)
  | int (value : Int)
  | float (value : Binary64)
  | str (text : String)
  | arr (items : List Json)
  | obj (members : List (String × Json))

namespace Json

-- Of several members of one name, the last.
def member? (members : List (String × Json)) (name : String) : Option Json :=
  members.reverse.lookup name

end Json

end Reckon
