/-!
# Words for hosts

What kind of device a host appears to be, what it does in a conversation, and
which end of a packet a finding is about. `label` is the word used in
documents, `title` the one shown to readers.
-/

namespace HostSurvey

inductive Category where
  | unknown
  | plc
  | rtu
  | mtu
  | ied
  | hmi
  | workstation
  | networkDevice
  | firewall
  | protocolConverter
  | flowComputer
  | other
  deriving DecidableEq, Repr, Inhabited

namespace Category

def all : List Category :=
  [unknown, plc, rtu, mtu, ied, hmi, workstation, networkDevice, firewall, protocolConverter,
    flowComputer, other]

def label : Category → String
  | unknown => "UNKNOWN"
  | plc => "PLC"
  | rtu => "RTU"
  | mtu => "MTU"
  | ied => "IED"
  | hmi => "HMI"
  | workstation => "WORKSTATION"
  | networkDevice => "NETWORK_DEVICE"
  | firewall => "FIREWALL"
  | protocolConverter => "PROTOCOL_CONVERTER"
  | flowComputer => "FLOW_COMPUTER"
  | other => "OTHER"

def title : Category → String
  | unknown => "Unknown"
  | plc => "PLC"
  | rtu => "RTU"
  | mtu => "MTU"
  | ied => "IED"
  | hmi => "HMI"
  | workstation => "Workstation"
  | networkDevice => "Network Device"
  | firewall => "Firewall"
  | protocolConverter => "Protocol Converter"
  | flowComputer => "Flow Computer"
  | other => "Other"

end Category

inductive Role where
  | unknown
  | client
  | server
  | master
  | slave
  | operator
  | engineer
  | other
  deriving DecidableEq, Repr, Inhabited

namespace Role

def all : List Role := [unknown, client, server, master, slave, operator, engineer, other]

def label : Role → String
  | unknown => "UNKNOWN"
  | client => "CLIENT"
  | server => "SERVER"
  | master => "MASTER"
  | slave => "SLAVE"
  | operator => "OPERATOR"
  | engineer => "ENGINEER"
  | other => "OTHER"

def title : Role → String
  | unknown => "Unknown"
  | client => "Client"
  | server => "Server"
  | master => "Master"
  | slave => "Slave"
  | operator => "Operator"
  | engineer => "Engineer"
  | other => "Other"

end Role

/-- The end of a packet that a finding is about. -/
inductive Direction where
  | source
  | destination
  deriving DecidableEq, Repr, Inhabited

namespace Direction

def all : List Direction := [source, destination]

def label : Direction → String
  | source => "SOURCE"
  | destination => "DESTINATION"

end Direction

end HostSurvey
