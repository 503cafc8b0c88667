import Goby3Examples.Lib.Runs
import Goby3Examples.Lib.Proactor
import Goby3Examples.Lib.Counter
import Goby3Examples.Lib.Codec
import Goby3Examples.Lib.While
import Goby3Examples.Lib.Revolution
import Goby3Examples.Lib.Rounding
import Goby3Examples.Lib.Significant
import Goby3Examples.Lib.Cycle
import Goby3Examples.Lib.Spread
import Goby3Examples.Lib.Numeral
import Goby3Examples.Lib.Digits
import Goby3Examples.Lib.Broadcast
import Goby3Examples.Lib.Labelling
import Goby3Examples.Lib.Statechart
import Goby3Examples.Chat.Curses
import Goby3Examples.Chat.Main
import Goby3Examples.Chat.Arguments
import Goby3Examples.Chat.MediumAccess
import Goby3Examples.Chat.Screen
import Goby3Examples.Chat.Typing
import Goby3Examples.UdpMulticast.Driver
import Goby3Examples.UdpMulticast.Codec
import Goby3Examples.UdpMulticast.Ack
import Goby3Examples.UdpMulticast.Malformed
import Goby3Examples.UdpMulticast.ReceiveLoop
import Goby3Examples.UdpMulticast.Network
import Goby3Examples.UdpMulticast.Attribution
import Goby3Examples.UdpMulticast.Sending
import Goby3Examples.UdpMulticast.Quiescence
import Goby3Examples.Trail.Config
import Goby3Examples.Trail.Nav
import Goby3Examples.Trail.Conversion
import Goby3Examples.Trail.Heading
import Goby3Examples.Trail.Normalise
import Goby3Examples.Trail.Environment
import Goby3Examples.Trail.FanOut
import Goby3Examples.Trail.Fleet
import Goby3Examples.Trail.Managers
import Goby3Examples.Trail.Link
import Goby3Examples.Trail.Journey
import Goby3Examples.Trail.Identity
import Goby3Examples.Gps.Driver
import Goby3Examples.Gps.ParseLine
import Goby3Examples.Gps.Decode
import Goby3Examples.Gps.Fix
import Goby3Examples.StateMachine.Machine
import Goby3Examples.StateMachine.Reports
import Goby3Examples.Chat.Log
import Goby3Examples.Chat.Conversation
import Goby3Examples.Trail.Contact
import Goby3Examples.Lib.Mailbox
import Goby3Examples.Gps.Threads
import Goby3Examples.Multithread.Alerts
import Goby3Examples.Tcp.Connections
import Goby3Examples.Tcp.Requests
import Goby3Examples.Trail.Launch
import Goby3Examples.StateMachine.Control
import Goby3Examples.UdpMulticast.Ledger
import Goby3Examples.UdpMulticast.Delivery
import Goby3Examples.Gps.Readings
import Goby3Examples.Trail.Topside
