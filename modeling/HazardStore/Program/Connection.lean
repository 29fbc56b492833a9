import HazardStore.Program.Settings
/-!
What can be said about a connection before it is tried: the address has to name a scheme, and there
has to be time to wait for it.
-/

namespace HazardStore

inductive ConnectionFault where
  | relativeAddress
  | timedOut
deriving DecidableEq

namespace ConnectionFault

def relativeText : String := "relative URL without a base"

def chain : ConnectionFault → List String
  | .relativeAddress => ["error with configuration: " ++ relativeText, relativeText]
  | .timedOut => ["pool timed out while waiting for an open connection"]

end ConnectionFault

namespace Settings

/-- Controls and blanks at the ends of an address do not count. -/
def isMargin (c : Char) : Bool :=
  decide (c.toNat ≤ 32)

/-- Tabs and line ends are left out wherever they stand. -/
def isDropped (c : Char) : Bool :=
  c == '\t' || c == '\n' || c == '\r'

def isSchemeCharacter (c : Char) : Bool :=
  c.isAlphanum || c == '+' || c == '-' || c == '.'

/-- A letter, then letters, digits, plus, minus and point, then a colon. -/
def startsWithScheme (address : List Char) : Bool :=
  match (address.dropWhile isMargin).filter (fun c => !isDropped c) with
  | [] => false
  | first :: rest => first.isAlpha && (rest.dropWhile isSchemeCharacter).head? == some ':'

def connectable (settings : Settings) : Except ConnectionFault Unit :=
  if !startsWithScheme settings.databaseUrl.toList then .error .relativeAddress
  else if settings.acquireTimeout = 0 then .error .timedOut
  else .ok ()

end Settings

end HazardStore
