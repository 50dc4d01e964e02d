/-!
# Topics

Messages travel under topics whose levels are parted by slashes. All topics of the gateway begin
with a common root, which may be set with slashes at its end. A request comes in under the root, the
level `requests` and the device; what the gateway sends goes out under other levels.
-/

namespace FieldGateway.Topic

def isSlash (c : Char) : Bool := c == '/'

/-- The topic without the slashes at its end. -/
def trimEnd (s : List Char) : List Char := (s.reverse.dropWhile isSlash).reverse

/-- The topic without the slashes at its beginning. -/
def trimStart (s : List Char) : List Char := s.dropWhile isSlash

/-- The topic without the slashes at either end. -/
def trimSlashes (s : List Char) : List Char := trimEnd (trimStart s)

def under (root rest : String) : String := String.ofList (trimEnd root.toList) ++ rest

def response (root deviceId correlationId : String) : String :=
  under root ("/responses/" ++ deviceId ++ "/" ++ correlationId)

def events (root deviceId : String) : String := under root ("/events/" ++ deviceId)

def measurements (root deviceId : String) : String := under root ("/measurements/" ++ deviceId)

def subscription (root : String) : String := under root "/requests/#"

/-- What follows the root in a topic, if the topic begins with it. -/
def afterRoot? (root topic : List Char) : Option (List Char) :=
  if root = [] then some topic else root.isPrefixOf? topic

/-- The device that a topic below the level of requests names. -/
def deviceLevel? (rest : List Char) : Option (List Char) :=
  match rest with
  | [] => none
  | c :: _ =>
    let device := trimSlashes rest
    if isSlash c && !device.isEmpty && !device.any isSlash then some device else none

/-- The device that the topic of a request names. -/
def deviceOf? (root topic : String) : Option String := do
  let rest ← afterRoot? (trimSlashes root.toList) (trimSlashes topic.toList)
  let rest ← "requests".toList.isPrefixOf? (trimStart rest)
  let device ← deviceLevel? rest
  return String.ofList device

/-- Whether a message can be published under a topic; marks that match several topics cannot stand
in it. -/
def isPublishable (topic : String) : Bool := !topic.toList.any fun c => c == '+' || c == '#'

example : deviceOf? "osgp/iec61850/" "osgp/iec61850/requests/SSLD-1" = some "SSLD-1" := by
  decide +kernel

end FieldGateway.Topic
