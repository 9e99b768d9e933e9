import TwoHop.Header.Map
import TwoHop.Target
import TwoHop.Uri

namespace TwoHop.Destination

def hostText? (headers : Header.Map) : Option String := headers.text? "host"

def absoluteUri? (uri : Uri) (headers : Header.Map) : Option String :=
  if uri.scheme.isSome && uri.authority.isSome then some uri.text
  else do
    let host := Text.trim (← hostText? headers)
    if host.isEmpty then none
    else return "http://" ++ host ++ uri.pathAndQuery?.getD "/"

def tunnelTarget? (uri : Uri) (headers : Header.Map) : Option Target := do
  let authority ← uri.authority.orElse fun _ => hostText? headers
  (Target.parse authority Target.defaultPort).toOption

end TwoHop.Destination
