/-! # Metadata keys of members

The keys under which members publish where they can be reached and which group they belong to.
Members of all versions have to agree on them.
-/

namespace MemberDiscovery.MetadataKeys

def host : String := "hazelcast.host"

def port : String := "hazelcast.port"

def groupName : String := "hazelcast.groupName"

end MemberDiscovery.MetadataKeys
