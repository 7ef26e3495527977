import HomeAutomation.Validation.Reader

/-!
# Reaching the hub

A connection holds up to two addresses of the hub, one for use at home and one for use from
elsewhere, and the token that opens it. The mode picks the address: from elsewhere the cloud
address unless it is missing or empty, in any other case the home address. Blanks around it and
slashes at its end do not count (`HubConnection.url?`).
-/

namespace HomeAutomation

open Text

inductive HubMode where
  | home
  | cloud
  deriving DecidableEq, Repr

namespace HubMode

/-- The mode that a text asks for; home unless it says cloud. -/
def ofText (s : Option String) : HubMode :=
  if lower (strip (s.getD "")) = "cloud" then .cloud else .home

def text : HubMode → String
  | home => "home"
  | cloud => "cloud"

end HubMode

structure HubConnection where
  homeUrl : Option String
  cloudUrl : Option String
  token : String
  deriving DecidableEq

namespace HubConnection

def readFields (fields : Json.Fields) : Checked HubConnection :=
  HubConnection.mk <$> fields.optional ⟨"baseUrl", "base_url"⟩ Reader.text
    <*> fields.optional ⟨"cloudUrl", "cloud_url"⟩ Reader.text
    <*> fields.orDefault ⟨"longLivedToken", "long_lived_token"⟩ "" Reader.text

def read : Reader HubConnection :=
  Reader.record .notRecord readFields

def toJson (connection : HubConnection) : Json :=
  .obj [("baseUrl", .ofText? connection.homeUrl), ("cloudUrl", .ofText? connection.cloudUrl),
    ("longLivedToken", .str connection.token)]

def givenUrl (connection : HubConnection) : HubMode → String
  | .home => connection.homeUrl.getD ""
  | .cloud => ((nonEmpty? connection.cloudUrl).or connection.homeUrl).getD ""

/-- The address for a mode, without blanks around it and slashes at its end; none if nothing but
blanks is given. -/
def url? (connection : HubConnection) (mode : HubMode) : Option String :=
  let given := strip (connection.givenUrl mode)
  if given.isEmpty then none else some (stripEndSlashes given)

end HubConnection

def hubUrl? (connection : Option HubConnection) (mode : HubMode) : Option String :=
  connection.bind fun c => c.url? mode

end HomeAutomation
