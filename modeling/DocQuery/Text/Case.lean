/-!
# Letter case

Letters are compared without regard to case only where words of ASCII letters
are expected, so that it is enough to lower those.
-/

namespace DocQuery

def lowerText (s : String) : String := String.ofList (s.toList.map Char.toLower)

def beginsWith (c : Char) (s : String) : Bool := s.toList.head? == some c

end DocQuery
