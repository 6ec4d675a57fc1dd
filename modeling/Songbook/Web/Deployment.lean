/-!
# Deployment

Where a service listens, where its seed lies and which collection it fills, as the variables of its
environment say.
-/

namespace Songbook.Web

structure Deployment where
  address : String
  dataPath : String
  collection : String
  deriving DecidableEq

/-- A full address wins over a number alone, which stands for every address of the machine. -/
def Deployment.ofVariables (lookup : String → Option String) : Deployment where
  address := (lookup "SWIFT_API_ADDR").getD ("0.0.0.0:" ++ (lookup "PORT").getD "3000")
  dataPath := (lookup "SWIFT_DATA_PATH").getD "data/songs.json"
  collection := (lookup "SWIFT_COLLECTION").getD "taylorsongs"

end Songbook.Web
