import OpenRTH.SdpExchange
import OpenRTH.SerialBuffer
import OpenRTH.FixedBuffer
import OpenRTH.HexTransport
import OpenRTH.HexCodec
import OpenRTH.EvseKeys
import OpenRTH.MqttDelivery
import OpenRTH.NetSock
import OpenRTH.RelayDelivery
import OpenRTH.RelayReconnect
import OpenRTH.RelaySegmentation
import OpenRTH.SlacMachine
import OpenRTH.RunIdentifiers
import OpenRTH.SlacSuccess
import OpenRTH.J1772
import OpenRTH.PilotSampling
import OpenRTH.DeviceProcess
import OpenRTH.DeviceTransitions
import OpenRTH.Handshake
import OpenRTH.HandshakeAgreement
import OpenRTH.PwmShutdown
import OpenRTH.LeadsTo
import OpenRTH.RelayConnections
import OpenRTH.SlacRetries
import OpenRTH.EventHistory
import OpenRTH.SessionStages
import OpenRTH.CouplerRemoval
import OpenRTH.ShutdownSocket
import OpenRTH.RelayMailbox
import OpenRTH.RelayBuffers
import OpenRTH.RelayFailures
import OpenRTH.MqttNetRead
import OpenRTH.NetSockTransfers
import OpenRTH.HandshakeCausality
import OpenRTH.HandshakeProgress
import OpenRTH.HandshakeConfirmations
import OpenRTH.SdpRoundTrip
import OpenRTH.SdpListener
import OpenRTH.SdpStaleData
import OpenRTH.Tokenizer
import OpenRTH.TokenizerQuoting
import OpenRTH.FrameChecksum
import OpenRTH.CommandFrames
import OpenRTH.FrameCorruption
import OpenRTH.RemoteMode
import OpenRTH.RepeatingTimer
import OpenRTH.KickedTimer
import OpenRTH.SelectTimeouts
import OpenRTH.EarlyReturn
import OpenRTH.J1772Status
import OpenRTH.ConfigFile
import OpenRTH.ConfigBuffers
import OpenRTH.ConfigOverruns
import OpenRTH.ConfigScripts
import OpenRTH.ConfigLookup
import OpenRTH.ConfigIntegers
import OpenRTH.SlacAttenuation
import OpenRTH.SlacAgreement
import OpenRTH.Sha256Digests
import OpenRTH.WrittenSettings
import OpenRTH.PrintedDoubles
import OpenRTH.J1772Publication
import OpenRTH.EvseProfile
